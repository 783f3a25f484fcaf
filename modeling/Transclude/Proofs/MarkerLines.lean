import Transclude.Pattern.Reader
import Transclude.Proofs.DefaultMarkers
import Transclude.Proofs.TextLines

/-!
The default markers line by line. A start marker stands where its word and a colon have something
other than white space behind them, and the first of these places gives the parameter. No marker has
parts on both sides of a line end, so a text of several lines has the markers of its lines, and its
parameter is that of the first line that has one.
-/

namespace Transclude

open Unicode (isBlank)

namespace Pattern

variable {lead text front rest parameter : List Char}

/-- Behind some characters of a text stands a start marker, the word of which with its colon is
`lead`: a character other than white space follows it. -/
def StartsBehind (lead text front : List Char) : Prop :=
  ∃ c after, text = front ++ lead ++ c :: after ∧ isBlank c = false

/-- The first place in a text at which a start marker stands. -/
def StartsFirst (lead text front : List Char) : Prop :=
  StartsBehind lead text front ∧ ∀ other, StartsBehind lead text other → front.length ≤ other.length

/-- The longest run of characters other than white space at the beginning of a text, with what is
left behind it. -/
def IsRun (run rest : List Char) : Prop :=
  (∀ c ∈ run, isBlank c = false) ∧ ∀ c ∈ rest.head?, isBlank c = true

theorem contains_solid {c : Char} : solid.contains c = true ↔ isBlank c = false :=
  Bool.not_eq_true' (isBlank c) ▸ Iff.rfl

theorem isRun_takeWhile (text : List Char) :
    IsRun (text.takeWhile solid.contains) (text.dropWhile solid.contains) := by
  refine ⟨fun c member => contains_solid.mp (List.mem_takeWhile_imp member), fun c first => ?_⟩
  have known := List.head?_dropWhile_not solid.contains text
  rw [Option.mem_def.mp first] at known
  rwa [← Bool.not_eq_false, ← contains_solid, Bool.not_eq_true]

theorem IsRun.takeWhile_eq {run rest : List Char} (longest : IsRun run rest) :
    (run ++ rest).takeWhile solid.contains = run := by
  rw [List.takeWhile_append_of_pos fun c member => contains_solid.mpr (longest.1 c member)]
  cases rest with
  | nil => rw [List.takeWhile_nil, List.append_nil]
  | cons c rest =>
    have blank : ¬solid.contains c = true := by simp [contains_solid, longest.2 c rfl]
    rw [List.takeWhile_cons_of_neg blank, List.append_nil]

theorem startsBehind_iff :
    StartsBehind lead text front ↔
      ∃ after, text = front ++ lead ++ after ∧ after.takeWhile solid.contains ≠ [] := by
  constructor
  · rintro ⟨c, after, split, inside⟩
    refine ⟨c :: after, split, ?_⟩
    rw [List.takeWhile_cons_of_pos (contains_solid.mpr inside)]
    exact List.cons_ne_nil _ _
  · rintro ⟨after, split, nonempty⟩
    cases after with
    | nil => exact absurd rfl nonempty
    | cons c after =>
      refine ⟨c, after, split, contains_solid.mp ?_⟩
      by_contra blank
      rw [List.takeWhile_cons_of_neg blank] at nonempty
      exact nonempty rfl

/-- The first parameter of a text is the longest run behind the first start marker. -/
theorem firstParameter_iff_run :
    FirstParameter lead text parameter ↔
      ∃ front back, StartsFirst lead text front ∧ text = front ++ lead ++ parameter ++ back ∧
        IsRun parameter back := by
  constructor
  · rintro ⟨front, after, split, known, nonempty, least⟩
    refine ⟨front, after.dropWhile solid.contains, ⟨?_, fun other starts => ?_⟩, ?_, ?_⟩
    · exact startsBehind_iff.mpr ⟨after, split, known ▸ nonempty⟩
    · obtain ⟨more, same, solid_next⟩ := startsBehind_iff.mp starts
      exact least other more same solid_next
    · rw [known, List.append_assoc _ (List.takeWhile ..), List.takeWhile_append_dropWhile, split]
    · rw [known]
      exact isRun_takeWhile after
  · rintro ⟨front, back, ⟨starts, least⟩, split, longest⟩
    rw [List.append_assoc] at split
    refine ⟨front, parameter ++ back, split, longest.takeWhile_eq.symm, ?_,
      fun other more same solid_next => least other (startsBehind_iff.mpr ⟨more, same, solid_next⟩)⟩
    obtain ⟨after, same, nonempty⟩ := startsBehind_iff.mp starts
    rw [split] at same
    rwa [← List.append_cancel_left same, longest.takeWhile_eq] at nonempty

theorem exists_startsFirst (starts : StartsBehind lead text front) :
    ∃ first, StartsFirst lead text first := by
  induction size : front.length using Nat.strongRecOn generalizing front with
  | ind length ih =>
    by_cases least : ∀ other, StartsBehind lead text other → front.length ≤ other.length
    · exact ⟨front, starts, least⟩
    · push Not at least
      obtain ⟨other, before, shorter⟩ := least
      exact ih other.length (size ▸ shorter) before rfl

/-- Without a start marker nothing is captured. -/
theorem capture?_startMarker_eq_none {word text : String} :
    (startMarker word).capture? text = none ↔
      ∀ front, ¬StartsBehind (word ++ ":").toList text.toList front := by
  rw [Option.eq_none_iff_forall_ne_some]
  constructor
  · intro silent front starts
    obtain ⟨first, earliest⟩ := exists_startsFirst starts
    obtain ⟨after, split, -⟩ := startsBehind_iff.mp earliest.1
    refine silent (String.ofList (after.takeWhile solid.contains)) (capture?_startMarker.mpr ?_)
    rw [String.toList_ofList]
    refine firstParameter_iff_run.mpr ⟨first, _, earliest, ?_, isRun_takeWhile after⟩
    rw [List.append_assoc _ (List.takeWhile ..), List.takeWhile_append_dropWhile, split]
  · rintro silent parameter found
    obtain ⟨front, _, ⟨starts, -⟩, -⟩ := firstParameter_iff_run.mp (capture?_startMarker.mp found)
    exact silent front starts

/-- A start marker is matched only where it captures. -/
theorem isMatch_startMarker (word text : String) :
    (startMarker word).isMatch text = ((startMarker word).capture? text).isSome := by
  rw [isMatch, capture?, search?_startMarker]
  cases found : firstOf (markStart (word ++ ":").toList) 0 text.toList with
  | none => rfl
  | some marks =>
    obtain ⟨front, back, split, here, -⟩ := firstOf_eq_some.mp found
    obtain ⟨after, rfl, -, rfl⟩ := markStart_eq_some.mp here
    rw [Option.bind_some, split, Nat.zero_add, ← List.append_assoc, part?_one]
    rfl

/-! Lines. -/

/-- What has no line end of its own stands before a line end or behind it. -/
theorem split_at_lineEnd {other more : List Char} (inside : '\n' ∉ lead) :
    front ++ '\n' :: rest = other ++ lead ++ more ↔
      (∃ left, front = other ++ lead ++ left ∧ more = left ++ '\n' :: rest) ∨
        ∃ before, other = front ++ '\n' :: before ∧ rest = before ++ lead ++ more := by
  constructor
  · intro split
    rcases List.append_eq_append_iff.mp split with ⟨left, whole, same⟩ | ⟨left, same, whole⟩
    · cases left with
      | nil => exact .inl ⟨[], by simpa using whole.symm, same.symm⟩
      | cons d left =>
        obtain ⟨rfl, later⟩ := List.cons.inj same
        rcases List.append_eq_append_iff.mp whole with ⟨before, -, part⟩ | ⟨before, part, tail⟩
        · exact absurd (part ▸ List.mem_append_right _ List.mem_cons_self) inside
        · cases before with
          | nil =>
            rw [List.nil_append] at tail
            exact absurd (tail ▸ List.mem_cons_self) inside
          | cons e before =>
            obtain ⟨rfl, rfl⟩ := List.cons.inj tail
            exact .inr ⟨before, part, later⟩
    · exact .inl ⟨left, same, whole⟩
  · rintro (⟨left, rfl, rfl⟩ | ⟨before, rfl, rfl⟩) <;> simp

/-- A run ends at the end of its line. -/
theorem takeWhile_lineEnd (text rest : List Char) :
    (text ++ '\n' :: rest).takeWhile solid.contains = text.takeWhile solid.contains := by
  induction text with
  | nil => rfl
  | cons c text ih => rw [List.cons_append, List.takeWhile_cons, List.takeWhile_cons, ih]

/-- A start marker stands in the first line of a text or behind it. -/
theorem startsBehind_line (inside : '\n' ∉ lead) {place : List Char} :
    StartsBehind lead (front ++ '\n' :: rest) place ↔
      StartsBehind lead (front ++ ['\n']) place ∨
        ∃ before, place = front ++ '\n' :: before ∧ StartsBehind lead rest before := by
  simp only [startsBehind_iff, split_at_lineEnd inside]
  constructor
  · rintro ⟨after, ⟨left, split, rfl⟩ | ⟨before, behind, split⟩, nonempty⟩
    · rw [takeWhile_lineEnd, ← takeWhile_lineEnd left []] at nonempty
      exact .inl ⟨_, .inl ⟨left, split, rfl⟩, nonempty⟩
    · exact .inr ⟨before, behind, after, split, nonempty⟩
  · rintro (⟨after, ⟨left, split, rfl⟩ | ⟨before, -, split⟩, nonempty⟩ |
      ⟨before, behind, after, split, nonempty⟩)
    · rw [takeWhile_lineEnd, ← takeWhile_lineEnd left rest] at nonempty
      exact ⟨_, .inl ⟨left, split, rfl⟩, nonempty⟩
    · rw [(List.append_eq_nil_iff.mp split.symm).2] at nonempty
      exact absurd rfl nonempty
    · exact ⟨after, .inr ⟨before, behind, split⟩, nonempty⟩

theorem FirstParameter.of_line (inside : '\n' ∉ lead)
    (captured : FirstParameter lead (front ++ ['\n']) parameter) (rest : List Char) :
    FirstParameter lead (front ++ '\n' :: rest) parameter := by
  obtain ⟨place, after, split, known, nonempty, least⟩ := captured
  rcases (split_at_lineEnd inside).mp split with ⟨left, line, rfl⟩ | ⟨before, -, blank⟩
  · rw [takeWhile_lineEnd, ← takeWhile_lineEnd left rest] at known
    refine ⟨place, left ++ '\n' :: rest, by simp [line], known, nonempty,
      fun other more same solid_next => ?_⟩
    rcases (startsBehind_line inside).mp (startsBehind_iff.mpr ⟨more, same, solid_next⟩) with
      near | ⟨before, rfl, -⟩
    · obtain ⟨more, same, solid_next⟩ := startsBehind_iff.mp near
      exact least other more same solid_next
    · simp only [line, List.length_append]
      omega
  · rw [(List.append_eq_nil_iff.mp blank.symm).2] at known
    exact absurd known nonempty

/-- Behind a line without a start marker all places are moved by the length of the line, so the
first of them is the same. -/
theorem firstParameter_behind_line (inside : '\n' ∉ lead)
    (silent : ∀ place, ¬StartsBehind lead (front ++ ['\n']) place) :
    FirstParameter lead (front ++ '\n' :: rest) parameter ↔ FirstParameter lead rest parameter := by
  have later : ∀ {place}, StartsBehind lead (front ++ '\n' :: rest) place ↔
      ∃ before, place = front ++ '\n' :: before ∧ StartsBehind lead rest before := fun {place} =>
    (startsBehind_line inside).trans (or_iff_right (silent place))
  rw [firstParameter_iff_run, firstParameter_iff_run]
  constructor
  · rintro ⟨place, back, ⟨starts, least⟩, split, longest⟩
    obtain ⟨before, rfl, near⟩ := later.mp starts
    refine ⟨before, back, ⟨near, fun other further => ?_⟩, by simpa using split, longest⟩
    simpa using least _ (later.mpr ⟨other, rfl, further⟩)
  · rintro ⟨before, back, ⟨starts, least⟩, rfl, longest⟩
    refine ⟨front ++ '\n' :: before, back, ⟨later.mpr ⟨before, rfl, starts⟩, ?_⟩, by simp, longest⟩
    intro other near
    obtain ⟨before', rfl, starts'⟩ := later.mp near
    simpa using least before' starts'

/-- A text has the parameter of its first line, or else the one behind it. -/
theorem capture?_line {word : String} (inside : '\n' ∉ (word ++ ":").toList)
    (front rest : List Char) :
    (startMarker word).capture? (String.ofList (front ++ '\n' :: rest)) =
      ((startMarker word).capture? (String.ofList (front ++ ['\n']))).or
        ((startMarker word).capture? (String.ofList rest)) := by
  cases here : (startMarker word).capture? (String.ofList (front ++ ['\n'])) with
  | some parameter =>
    rw [capture?_startMarker, String.toList_ofList] at here
    rw [Option.some_or, capture?_startMarker, String.toList_ofList]
    exact here.of_line inside rest
  | none =>
    rw [capture?_startMarker_eq_none, String.toList_ofList] at here
    ext parameter
    rw [Option.none_or, capture?_startMarker, capture?_startMarker, String.toList_ofList,
      String.toList_ofList]
    exact firstParameter_behind_line inside here

/-- An end marker stands in the first line of a text or behind it. -/
theorem isMatch_endMarker_line {word : String} (nonempty : word ≠ "")
    (inside : '\n' ∉ word.toList) (front rest : List Char) :
    (endMarker word).isMatch (String.ofList (front ++ '\n' :: rest)) =
      ((endMarker word).isMatch (String.ofList (front ++ ['\n'])) ||
        (endMarker word).isMatch (String.ofList rest)) := by
  have whole : ∀ text : List Char, (endMarker word).isMatch (String.ofList text) = true ↔
      ∃ place c after, c ≠ '\n' ∧ text = place ++ (word.toList ++ [c, 'e', 'n', 'd']) ++ after := by
    intro text
    rw [isMatch_endMarker nonempty, String.toList_ofList]
    simp only [List.append_assoc, List.cons_append, List.nil_append, and_comm]
  have solid_end : ∀ {c : Char}, c ≠ '\n' → '\n' ∉ word.toList ++ [c, 'e', 'n', 'd'] := by
    intro c other
    simp [inside, Ne.symm other]
  rw [Bool.eq_iff_iff, Bool.or_eq_true, whole, whole, whole]
  constructor
  · rintro ⟨place, c, after, other, split⟩
    rcases (split_at_lineEnd (solid_end other)).mp split with ⟨left, rfl, -⟩ | ⟨before, -, same⟩
    · exact .inl ⟨place, c, left ++ ['\n'], other, by simp⟩
    · exact .inr ⟨before, c, after, other, same⟩
  · rintro (⟨place, c, after, other, split⟩ | ⟨before, c, after, other, rfl⟩)
    · refine ⟨place, c, after ++ rest, other, ?_⟩
      rw [← List.append_assoc, ← split]
      simp
    · exact ⟨front ++ '\n' :: before, c, after, other, by simp⟩

end Pattern

/-- What can be found in a text of several lines is found in the first line that has it. -/
theorem findSome?_textLines {α : Type} {find : String → Option α} (empty : find "" = none)
    (line : ∀ front rest, find (String.ofList (front ++ '\n' :: rest)) =
      (find (String.ofList (front ++ ['\n']))).or (find (String.ofList rest))) (text : String) :
    (textLines text).findSome? find = find text := by
  rw [textLines, List.findSome?_map, ← String.ofList_toList (s := text), String.toList_ofList]
  induction text.toList using lines_cases with
  | empty => exact empty.symm
  | line front rest inside ih =>
    rw [cutLines_line inside, List.findSome?_cons, ih, line front rest, Function.comp_apply]
    cases find (String.ofList (front ++ ['\n'])) <;> rfl
  | last front inside nonempty =>
    rw [cutLines_last inside nonempty, List.findSome?_singleton]
    rfl

theorem any_textLines {found : String → Bool} (empty : found "" = false)
    (line : ∀ front rest, found (String.ofList (front ++ '\n' :: rest)) =
      (found (String.ofList (front ++ ['\n'])) || found (String.ofList rest))) (text : String) :
    (textLines text).any found = found text := by
  rw [textLines, List.any_map, ← String.ofList_toList (s := text), String.toList_ofList]
  induction text.toList using lines_cases with
  | empty => exact empty.symm
  | line front rest inside ih =>
    rw [cutLines_line inside, List.any_cons, ih, line front rest]
    rfl
  | last front inside nonempty =>
    rw [cutLines_last inside nonempty, List.any_cons, List.any_nil, Bool.or_false]
    rfl

namespace Markers

open Pattern

theorem name_inside_line (directive : Directive) :
    directive.name ≠ "" ∧ '\n' ∉ directive.name.toList ∧
      '\n' ∉ (directive.name ++ ":").toList := by
  cases directive <;> decide

/-- The default markers are what the texts of their patterns are read as. -/
theorem read?_standard (directive : Directive) :
    Pattern.read? (directive.name ++ ":(\\S+)") = some (standard directive).start ∧
      Pattern.read? (directive.name ++ ".end") = some (standard directive).stop := by
  cases directive <;> exact ⟨by rfl, by rfl⟩

theorem parameter?_textLines (directive : Directive) (text : String) :
    (textLines text).findSome? (standard directive).parameter? =
      (standard directive).parameter? text := by
  refine findSome?_textLines (capture?_startMarker_eq_none.mpr fun front starts => ?_)
    (capture?_line (name_inside_line directive).2.2) text
  obtain ⟨c, after, split, -⟩ := starts
  simp at split

theorem isStop_textLines (directive : Directive) (text : String) :
    (textLines text).any (standard directive).isStop = (standard directive).isStop text := by
  have ⟨nonempty, inside, _⟩ := name_inside_line directive
  refine any_textLines (Bool.eq_false_iff.mpr fun stop => ?_)
    (isMatch_endMarker_line nonempty inside) text
  obtain ⟨front, c, after, split, -⟩ := (isMatch_endMarker nonempty).mp stop
  simp at split

theorem start_isMatch_textLines (directive : Directive) (text : String) :
    (textLines text).any (standard directive).start.isMatch =
      (standard directive).start.isMatch text := by
  have same := isMatch_startMarker directive.name
  have found := parameter?_textLines directive text
  show (textLines text).any (startMarker directive.name).isMatch =
    (startMarker directive.name).isMatch text
  rw [same text, funext same, ← List.isSome_findSome?]
  exact congrArg Option.isSome found

/-- What the default markers of a directive recognise. They are what their patterns are read as. A
start marker stands where the word and a colon are followed by something other than white space, and
its parameter is the longest run of such characters behind the first place of this kind; without
such a place there is none. An end marker stands where the word, one character other than a line
end, and `end` follow one another. So a text of several lines has the markers of its lines, and the
parameter of the first line that has one. -/
theorem standard_exact (directive : Directive) (text : String) :
    let markers := standard directive
    let word := directive.name
    let lead := (word ++ ":").toList
    Pattern.read? (word ++ ":(\\S+)") = some markers.start ∧
    Pattern.read? (word ++ ".end") = some markers.stop ∧
    (∀ parameter, markers.parameter? text = some parameter ↔
      ∃ front back, StartsFirst lead text.toList front ∧
        text.toList = front ++ lead ++ parameter.toList ++ back ∧ IsRun parameter.toList back) ∧
    (markers.parameter? text = none ↔ ∀ front, ¬StartsBehind lead text.toList front) ∧
    (markers.isStop text = true ↔
      ∃ front c after, text.toList = front ++ word.toList ++ c :: 'e' :: 'n' :: 'd' :: after ∧
        c ≠ '\n') ∧
    markers.start.isMatch text = (textLines text).any markers.start.isMatch ∧
    markers.parameter? text = (textLines text).findSome? markers.parameter? ∧
    markers.isStop text = (textLines text).any markers.isStop := by
  intro markers word lead
  refine ⟨(read?_standard directive).1, (read?_standard directive).2, fun parameter => ?_, ?_, ?_,
    ?_, ?_, ?_⟩
  · exact capture?_startMarker.trans firstParameter_iff_run
  · exact capture?_startMarker_eq_none
  · exact isMatch_endMarker (name_inside_line directive).1
  · exact (start_isMatch_textLines directive text).symm
  · exact (parameter?_textLines directive text).symm
  · exact (isStop_textLines directive text).symm

example : (standard .mapfile).parameter? "mapfile: a\nmapfile:b\u00a0c mapfile:d\n" = some "b" := by
  cbv

end Markers

end Transclude
