import Transclude.Proofs.DefaultMarkers
import Transclude.Proofs.RegionCut

/-!
Directives of a document that stand in a file from which a region is taken. The word of a region
marker is the tail of the word of a region block, so the filter for regions sees the markers of such
blocks as its own: the end marker of a block ends a region, and outside of regions the parameter of
a block is read as the name of one. Lines with neither are taken as text.
-/

namespace Transclude

/-- In a line, whatever the filter for regions takes for a marker stands behind `map`, as the tail
of a marker of a region block. -/
def OnlyBlockMarkers (line : String) : Prop :=
  (∀ front after, line.toList = front ++ "range:".toList ++ after → "map".toList <:+ front) ∧
  ∀ front c after, line.toList = front ++ "range".toList ++ c :: 'e' :: 'n' :: 'd' :: after →
    c ≠ '\n' → "map".toList <:+ front

namespace OnlyBlockMarkers

variable {line : String}

/-- It is enough that the word of a region marker stands behind `map` wherever it occurs. -/
theorem of_word (behind : ∀ count ≤ line.toList.length,
    "range".toList <+: line.toList.drop count → "map".toList <:+ line.toList.take count) :
    OnlyBlockMarkers line := by
  have occurs : ∀ front after, line.toList = front ++ ("range".toList ++ after) →
      "map".toList <:+ front := by
    intro front after split
    have known := behind front.length (by rw [split]; simp)
    rw [split, List.drop_left, List.take_left] at known
    exact known (List.prefix_append _ _)
  constructor
  · intro front after split
    exact occurs front (':' :: after) (by rw [split]; simp)
  · intro front c after split _
    exact occurs front (c :: 'e' :: 'n' :: 'd' :: after) (by rw [split]; simp)

theorem firstParameter_iff (only : OnlyBlockMarkers line) (parameter : List Char) :
    Pattern.FirstParameter "range:".toList line.toList parameter ↔
      Pattern.FirstParameter "maprange:".toList line.toList parameter := by
  have word : "maprange:".toList = "map".toList ++ "range:".toList := by decide
  -- The places of the two markers differ by the length of `map`, so their order is the same.
  constructor
  · rintro ⟨front, after, split, known, nonempty, least⟩
    obtain ⟨before, rfl⟩ := only.1 front after split
    refine ⟨before, after, by rw [split, word, List.append_assoc before], known, nonempty,
      fun other more same solid_next => ?_⟩
    have shorter := least (other ++ "map".toList) more (by rw [same, word]; simp) solid_next
    rw [List.length_append, List.length_append] at shorter
    exact Nat.le_of_add_le_add_right shorter
  · rintro ⟨front, after, split, known, nonempty, least⟩
    refine ⟨front ++ "map".toList, after, by rw [split, word]; simp, known, nonempty,
      fun other more same solid_next => ?_⟩
    obtain ⟨before, rfl⟩ := only.1 other more same
    have shorter := least before more (by rw [same, word, List.append_assoc before]) solid_next
    rw [List.length_append, List.length_append]
    exact Nat.add_le_add_right shorter _

/-- The filter for regions reads the parameter of the marker of a region block. -/
theorem parameter?_eq (only : OnlyBlockMarkers line) :
    (Markers.standard .range).parameter? line = (Markers.standard .maprange).parameter? line := by
  ext parameter
  show (Pattern.startMarker "range").capture? line = some parameter ↔
    (Pattern.startMarker "maprange").capture? line = some parameter
  rw [Pattern.capture?_startMarker, Pattern.capture?_startMarker]
  exact only.firstParameter_iff parameter.toList

/-- The filter for regions takes the end marker of a region block for one of its own, and no other
text. -/
theorem isStop_eq (only : OnlyBlockMarkers line) :
    (Markers.standard .range).isStop line = (Markers.standard .maprange).isStop line := by
  have word : "maprange".toList = "map".toList ++ "range".toList := by decide
  rw [Bool.eq_iff_iff]
  show (Pattern.endMarker "range").isMatch line = true ↔
    (Pattern.endMarker "maprange").isMatch line = true
  rw [Pattern.isMatch_endMarker (by decide), Pattern.isMatch_endMarker (by decide)]
  constructor
  · rintro ⟨front, c, after, split, inside⟩
    obtain ⟨before, rfl⟩ := only.2 front c after split inside
    exact ⟨before, c, after, by rw [split, word, List.append_assoc before], inside⟩
  · rintro ⟨front, c, after, split, inside⟩
    exact ⟨front ++ "map".toList, c, after, by rw [split, word]; simp, inside⟩

end OnlyBlockMarkers

namespace RegionFilter

variable {filter : RegionFilter}

theorem clean_of_extract {document : Path} {nodes output : List String}
    (went : (filter.extract document nodes).outcome = .ok output) :
    ∀ node ∈ output, filter.markers.isStop node = false := by
  obtain ⟨-, -, rfl⟩ := extract_eq_ok.mp went
  clear went
  fun_induction parts filter nodes with
  | case1 => exact List.forall_mem_nil _
  | case2 node rest opening ending => exact List.forall_mem_nil _
  | case3 node rest opening stop after closing ih =>
    rw [List.flatMap_cons, List.forall_mem_append]
    exact ⟨filter.markers.body_clean rest, ih⟩
  | case4 node rest other ih => exact ih

/-- A line is taken as text behind some nodes and before some others: in a region of the name it is
kept at its place, anywhere else it is dropped, and all else is as it is without the line, except
that later nodes stand one position further. -/
def TakesAsText (filter : RegionFilter) (document : Path) (front : List String) (line : String)
    (back : List String) : Prop :=
  let without := (filter.extract document (front ++ back)).outcome
  (filter.extract document (front ++ line :: back)).outcome =
    (match filter.reached front with
      | .ok (kept, .inside _) =>
        without.map fun output : List String => output.insertIdx kept.length line
      | _ => without).mapError (Failure.moved (front.length + 1) 1)

/-- Behind a start marker that cannot be decoded every line is taken as text. -/
theorem takesAsText_of_reached_error {front : List String} {failure : Failure}
    (failed : filter.reached front = .error failure) (document : Path) (line : String)
    (back : List String) : filter.TakesAsText document front line back := by
  obtain ⟨parameter, fault, rfl⟩ := malformed_of_advance failed
  rw [TakesAsText, outcome_extract_of_reached_error failed,
    outcome_extract_of_reached_error failed, failed]
  rfl

theorem takesAsText_of_clean {front kept : List String} {opened : Nat}
    (stands : filter.reached front = .ok (kept, .inside opened)) {line : String}
    (clean : filter.markers.isStop line = false) (document : Path) (back : List String) :
    filter.TakesAsText document front line back := by
  rw [TakesAsText, outcome_extract_inside stands clean, stands]

theorem takesAsText_of_silent {front kept : List String}
    (stands : filter.reached front = .ok (kept, .outside)) {line : String}
    (silent : filter.opens line = .ok false) (document : Path) (back : List String) :
    filter.TakesAsText document front line back := by
  rw [TakesAsText, outcome_extract_outside stands silent, stands]

/-- What becomes of a line put into a document from which a region is taken. It is taken as text in
a region, unless it has an end marker, and outside of regions when it has no start marker or one of
another name. An end marker in a region ends the region and is not kept. Outside, a start marker
with the name opens a region, and one that cannot be decoded makes the extraction fail. When the
line has no markers but those of region blocks, these are the markers meant. -/
theorem extract_insert_line (name : String) (document : Path) (front : List String) (line : String)
    (back : List String) :
    let filter := named name
    let block := Markers.standard .maprange
    let whole := (filter.extract document (front ++ line :: back)).outcome
    (OnlyBlockMarkers line →
      filter.markers.isStop line = block.isStop line ∧
        filter.markers.parameter? line = block.parameter? line) ∧
    match filter.reached front with
    | .error _ => filter.TakesAsText document front line back
    | .ok (kept, .inside _) =>
      (filter.markers.isStop line = false → filter.TakesAsText document front line back) ∧
      (filter.markers.isStop line = true →
        whole = ((filter.extract document back).outcome.map (kept ++ ·)).mapError
          (Failure.moved 0 (front.length + 1)) ∧
        ∀ output, whole = .ok output → line ∉ output)
    | .ok (kept, .outside) =>
      ((∀ parameter, filter.markers.parameter? line = some parameter →
          ∃ other, Parameter.decodeRegionName parameter = .ok other ∧ other ≠ name) →
        filter.TakesAsText document front line back) ∧
      ∀ parameter, filter.markers.parameter? line = some parameter →
        (∀ fault, Parameter.decodeRegionName parameter = .error fault →
          whole = .error (.malformed .range parameter fault)) ∧
        (Parameter.decodeRegionName parameter = .ok name →
          (∀ lines stop after, back = lines ++ stop :: after →
            (∀ node ∈ lines, filter.markers.isStop node = false) →
            filter.markers.isStop stop = true →
            whole = ((filter.extract document after).outcome.map (kept ++ lines ++ ·)).mapError
              (Failure.moved 0 (front.length + lines.length + 2))) ∧
          ((∀ node ∈ back, filter.markers.isStop node = false) →
            whole = .error (.unterminated .range document (front.length + 1)))) := by
  intro filter block whole
  refine ⟨fun only => ⟨only.isStop_eq, only.parameter?_eq⟩, ?_⟩
  cases stands : filter.reached front with
  | error failure => exact takesAsText_of_reached_error stands document line back
  | ok behind =>
    obtain ⟨kept, state⟩ := behind
    cases state with
    | inside opened =>
      refine ⟨fun clean => takesAsText_of_clean stands clean document back,
        fun stop => ⟨outcome_extract_stop stands stop document back,
          fun output went member => ?_⟩⟩
      have clean := clean_of_extract went line member
      rw [stop] at clean
      cases clean
    | outside =>
      refine ⟨fun other => takesAsText_of_silent stands (opens_eq_false.mpr other) document back,
        fun parameter found => ⟨fun fault broken => ?_, fun decoded => ?_⟩⟩
      · exact outcome_extract_fault stands
          (opens_eq_error.mpr ⟨parameter, fault, found, broken, rfl⟩) document back
      · have opening : filter.opens line = .ok true := opens_eq_true.mpr ⟨parameter, found, decoded⟩
        refine ⟨fun lines stop after split clean closing => ?_, fun clean => ?_⟩
        · subst split
          exact outcome_extract_region document front lines after stands opening clean closing
        · exact outcome_extract_unclosed stands opening clean

/-- A block in a region is not extracted whole: its end marker ends the region. -/
theorem block_end_ends_region :
    let filter := named "r"
    let front := ["range:r\n", "maprange:b,x\n"]
    let line := "maprange.end\n"
    let back := ["a\n", "range.end\n"]
    OnlyBlockMarkers line ∧
      (filter.extract ⟨"d"⟩ (front ++ back)).outcome = .ok ["maprange:b,x\n", "a\n"] ∧
      (filter.extract ⟨"d"⟩ (front ++ line :: back)).outcome = .ok ["maprange:b,x\n"] ∧
      ¬filter.TakesAsText ⟨"d"⟩ front line back := by
  intro filter front line back
  have opening : filter.opens "range:r\n" = .ok true :=
    opens_eq_true.mpr ⟨"r", (Markers.parameter?_standard .range _).trans (by decide),
      by with_unfolding_all rfl⟩
  have block : filter.markers.isStop "maprange:b,x\n" = false :=
    (Markers.isStop_standard .range _).trans (by decide)
  have text : filter.markers.isStop "a\n" = false :=
    (Markers.isStop_standard .range _).trans (by decide)
  have closing : filter.markers.isStop "range.end\n" = true :=
    (Markers.isStop_standard .range _).trans (by decide)
  have without : (filter.extract ⟨"d"⟩ (front ++ back)).outcome =
      .ok ["maprange:b,x\n", "a\n"] :=
    outcome_extract_region ⟨"d"⟩ [] ["maprange:b,x\n", "a\n"] [] rfl opening
      (by simp [block, text]) closing
  have whole : (filter.extract ⟨"d"⟩ (front ++ line :: back)).outcome =
      .ok ["maprange:b,x\n"] := by
    have ends : filter.markers.isStop line = true :=
      (Markers.isStop_standard .range _).trans (by decide)
    have unmarked : ∀ node ∈ ["a\n", "range.end\n"], filter.markers.parameter? node = none := by
      simp only [filter, named, Markers.parameter?_standard]
      decide
    have quiet : ∀ node ∈ back, filter.opens node = .ok false := fun node member =>
      opens_eq_false.mpr fun parameter found => by
        rw [unmarked node member] at found
        cases found
    have behind : (filter.extract ⟨"d"⟩ back).outcome = .ok [] := by
      rw [List.forall_mem_cons, List.forall_mem_singleton] at quiet
      simp only [back, extract, outcome_scan_cons, outcome_step_outside, quiet, entered, Except.map,
        Except.bind]
      rfl
    have cut := outcome_extract_region ⟨"d"⟩ [] ["maprange:b,x\n"] back rfl opening
      (by simp [block]) ends
    rw [behind] at cut
    exact cut
  have stands : filter.reached front = .ok (["maprange:b,x\n"], .inside 1) := by
    simp [front, reached, advance, Run.outcome_bind, outcome_step_outside, opening, entered,
      step_body block, Except.map, Except.bind]
  refine ⟨OnlyBlockMarkers.of_word (by decide), without, whole, fun taken => ?_⟩
  rw [TakesAsText, whole, without, stands] at taken
  cases taken

end RegionFilter

end Transclude
