import Transclude.Glob.Expand
import Transclude.Proofs.GlobReading

/-!
The end of a glob and its beginning. When a glob has been read, the parts of a name and a slash that
were put below stand in front of its parts. A name without special characters is read as itself, so
a glob that begins with the name of a directory is read as the rest of it, behind the name.
-/

namespace Transclude.Glob

open Transclude.Stream (encode)

namespace Reader

variable {name : List Part} {reader : Reader}

theorem lowerParts_of_other {parts : List Part} (other : parts.getLast? ≠ some .leading) :
    lowerParts name parts = parts ++ .literal '/' :: name := by
  induction parts with
  | nil => rfl
  | cons part parts ih =>
    cases parts with
    | nil =>
      have other : part ≠ .leading := by simpa using other
      exact lowerParts_cons (.inl other)
    | cons next parts =>
      rw [lowerParts_cons (.inr (List.cons_ne_nil _ _)), ih (by simpa using other)]
      rfl

theorem lowerParts_of_leading (parts : List Part) :
    lowerParts name (parts ++ [.leading]) = parts ++ .inner :: name := by
  induction parts with
  | nil => rfl
  | cons part parts ih =>
    rw [List.cons_append, lowerParts_cons (.inr (by simp)), ih, List.cons_append]

/-- The parts with a name below stand behind the name. -/
theorem below_lowerParts (base : List Char) {parts : List Part} (longer : parts ≠ [.leading]) :
    Below base parts.reverse (lowerParts (base.map .literal).reverse parts).reverse := by
  by_cases stars : parts.getLast? = some .leading
  · obtain ⟨others, rfl⟩ := List.getLast?_eq_some_iff.mp stars
    have more : others.reverse ≠ [] := by
      rw [List.reverse_ne_nil_iff]
      rintro rfl
      exact longer rfl
    have whole : Below base _ _ := .inner others.reverse more
    rw [lowerParts_of_leading]
    simpa using whole
  · have whole : Below base _ _ := .plain parts.reverse (by rwa [List.head?_reverse])
    rw [lowerParts_of_other stars]
    simpa using whole

/-- What has been read when no group is open. -/
def closed (reader : Reader) : Except Fault (List Part) :=
  if reader.groups.isEmpty then .ok reader.parts.reverse else .error .unclosedGroup

theorem finish_eq :
    reader.finish =
      match reader.mode with
      | .plain => reader.closed
      | .escaped => .error .unfinishedEscape
      | .star _ => (reader.add .many).closed
      | .stars before => (reader.settle before none).1.closed
      | _ => .error .unclosedRanges := by
  unfold finish
  cases reader.mode <;> rfl

theorem closed_eq_ok {parts : List Part} :
    reader.closed = .ok parts ↔ reader.groups = [] ∧ parts = reader.parts.reverse := by
  unfold closed
  split_ifs with none_open
  · simp [List.isEmpty_iff.mp none_open, eq_comm]
  · simp [List.isEmpty_iff.not.mp none_open]

theorem groups_lower_eq_nil : (reader.lower name).groups = [] ↔ reader.groups = [] := by
  rw [← List.isEmpty_iff, isEmpty_groups_lower, List.isEmpty_iff]

theorem parts_lower (none_open : reader.groups = []) :
    (reader.lower name).parts = lowerParts name reader.parts := by
  rw [lower, none_open]

variable {base : List Char} {whole : List Part}

theorem closed_lower (longer : reader.groups = [] → reader.parts ≠ [.leading])
    (went : (reader.lower (base.map .literal).reverse).closed = .ok whole) :
    ∃ parts, reader.closed = .ok parts ∧ Below base parts whole := by
  obtain ⟨none_open, rfl⟩ := closed_eq_ok.mp went
  rw [groups_lower_eq_nil] at none_open
  refine ⟨_, closed_eq_ok.mpr ⟨none_open, rfl⟩, ?_⟩
  rw [parts_lower none_open]
  exact below_lowerParts base (longer none_open)

theorem groups_settle (before next : Option Char) :
    (reader.settle before next).1.groups = reader.groups := by
  unfold settle
  split_ifs <;> first | rfl | rw [addAcross_eq]

theorem settle_none (begun : reader.parts ≠ []) (before : Option Char) :
    (reader.settle before none).1 =
      if reader.afterBreak before then reader.addAcross .trailing else reader.addMany := by
  unfold settle
  simp only [List.isEmpty_iff, begun, if_false]
  split_ifs with other here <;> simp_all

theorem below_trailing (base : List Char) :
    Below base [.leading] (.trailing :: (base.map Part.literal).reverse).reverse := by
  have whole : Below base _ _ := .trailing
  simpa using whole

/-- Two stars at the end. -/
theorem closed_settle_lower {before : Option Char} (first : before = none ↔ reader.Bare)
    (went : ((reader.lower (base.map .literal).reverse).settle (some (before.getD '/'))
      none).1.closed = .ok whole) :
    ∃ parts, (reader.settle before none).1.closed = .ok parts ∧ Below base parts whole := by
  obtain ⟨none_open, rfl⟩ := closed_eq_ok.mp went
  rw [groups_settle, groups_lower_eq_nil] at none_open
  obtain ⟨mode, last, groups, parts⟩ := reader
  cases none_open
  by_cases bare : parts = []
  · obtain rfl := first.mpr ⟨rfl, bare⟩
    subst bare
    exact ⟨_, rfl, below_trailing base⟩
  · obtain ⟨before, rfl⟩ :=
      Option.ne_none_iff_exists'.mp fun nothing => bare (first.mp nothing).2
    let reader : Reader := ⟨mode, last, [], parts⟩
    let lowered := reader.lower (base.map .literal).reverse
    have some_part : reader.parts ≠ [] := bare
    have some_lowered : lowered.parts ≠ [] := lowerParts_ne_nil _ parts
    show ∃ found, (reader.settle (some before) none).1.closed = .ok found ∧
      Below base found (lowered.settle (some before) none).1.parts.reverse
    rw [settle_none some_part, settle_none some_lowered, afterBreak_lower]
    split_ifs
    · refine ⟨_, by rw [addAcross_eq]; rfl, ?_⟩
      rw [addAcross_eq]
      show Below base (across .trailing parts).reverse
        (across .trailing (lowerParts (base.map .literal).reverse parts)).reverse
      by_cases alone : parts = [.leading]
      · rw [alone]
        exact below_trailing base
      · rw [across_lowerParts bare alone (by simp)]
        exact below_lowerParts base fun same => alone (eq_of_across (by simp) same)
    · refine closed_lower (by simp [addMany, add]) ?_
      rw [← lower_addMany]
      exact closed_eq_ok.mpr ⟨rfl, rfl⟩

/-- Where a name and a slash are put below all that has been read, they stand in front of all parts
in the end. -/
theorem finish_lower (opens : reader.Opens) (solid : reader.last ≠ some '/')
    (went : (reader.lower (base.map .literal).reverse).finish = .ok whole) :
    ∃ parts, reader.finish = .ok parts ∧ Below base parts whole := by
  rw [finish_eq, mode_lower] at went
  rw [finish_eq]
  cases mode : reader.mode with
  | plain =>
    rw [mode] at went
    exact closed_lower (fun none_open alone => solid (opens.slash mode none_open alone)) went
  | star before =>
    rw [mode] at went
    have went : ((reader.lower (base.map .literal).reverse).add .many).closed = .ok whole := went
    rw [lower_add (.inl (by simp))] at went
    exact closed_lower (by simp [add]) went
  | stars before =>
    rw [mode] at went
    exact closed_settle_lower (opens.star before (.inr mode)) went
  | escaped | opening | negated | inRanges held =>
    rw [mode] at went
    cases went

end Reader

/-- Characters that stand for themselves. -/
def IsPlain (text : List Char) : Prop := ∀ c ∈ text, isSpecial c = false ∧ c ≠ '\\'

theorem readPlain_of_plain {reader after : Reader} {c : Char} (plain : isSpecial c = false)
    (whole : c ≠ '\\') (none_open : reader.groups = [])
    (went : reader.readPlain c = .ok after) : after = reader.add (.literal c) := by
  unfold Reader.readPlain at went
  split at went
  · cases plain
  · cases plain
  · cases plain
  · cases plain
  · rw [Reader.closeGroup, none_open] at went
    cases went
  · rw [Reader.nextBranch, none_open] at went
    exact (Except.ok.inj went).symm
  · exact absurd rfl whole
  · exact (Except.ok.inj went).symm

/-- A text of such characters is read as itself. -/
theorem readAll_of_plain {reader after : Reader} {text : List Char} (plain : IsPlain text)
    (mode : reader.mode = .plain) (none_open : reader.groups = [])
    (went : text.foldlM Reader.read reader = .ok after) :
    after.mode = .plain ∧ after.groups = [] ∧
      after.parts = (text.map .literal).reverse ++ reader.parts := by
  induction text generalizing reader with
  | nil =>
    cases went
    exact ⟨mode, none_open, rfl⟩
  | cons c text ih =>
    rw [IsPlain, List.forall_mem_cons] at plain
    obtain ⟨next, step, later⟩ := Reader.readAll_cons_eq_ok.mp went
    obtain ⟨added, inside, rfl⟩ := Reader.read_eq_ok.mp step
    rw [Reader.readIn_plain mode] at inside
    obtain rfl := readPlain_of_plain plain.1.1 plain.1.2 none_open inside
    obtain ⟨mode, closed, parts⟩ := ih plain.2 (by rfl) (by exact none_open) later
    refine ⟨mode, closed, parts.trans ?_⟩
    simp [Reader.add]

theorem ofText_eq_ok {text : String} {glob : Glob} :
    ofText text = .ok glob ↔
      ∃ reader, text.toList.foldlM Reader.read Reader.start = .ok reader ∧
        reader.finish = .ok glob.parts := by
  obtain ⟨parts⟩ := glob
  rw [ofText]
  cases text.toList.foldlM Reader.read Reader.start with
  | error fault => simp [bind, Except.bind]
  | ok reader =>
    cases finished : reader.finish <;>
      simp [bind, Except.bind, pure, Except.pure, finished]

/-- A glob of such characters is their text. -/
theorem isMatch_of_plain {text path : String} {glob : Glob} (plain : IsPlain text.toList)
    (accepted : ofText text = .ok glob) : glob.isMatch path = true ↔ path = text := by
  obtain ⟨reader, read, finished⟩ := ofText_eq_ok.mp accepted
  obtain ⟨mode, none_open, parts⟩ := readAll_of_plain plain rfl rfl read
  rw [Reader.finish_eq, mode] at finished
  obtain ⟨-, same⟩ := Reader.closed_eq_ok.mp finished
  have literals : glob = ⟨text.toList.map .literal⟩ := by
    obtain ⟨found⟩ := glob
    rw [parts] at same
    simpa [Reader.start] using same
  have takes : Takes (text.toList.map .literal ++ []) (encode path.toList) ↔
      encode path.toList = encode text.toList := by
    rw [takes_literals]
    simp [takes_nil]
  rw [List.append_nil] at takes
  have other : text.toList.map Part.literal ≠ [.leading] := by
    cases text.toList <;> simp
  rw [literals, isMatch_iff, or_iff_right other, takes]
  constructor
  · intro same
    rw [← List.append_nil (encode text.toList)] at same
    obtain ⟨after, split, nothing⟩ := exists_of_encode_append same
    cases after with
    | nil => exact String.toList_inj.mp (by rw [split, List.append_nil])
    | cons c after => simp [encode] at nothing
  · rintro rfl
    rfl

/-- What follows the name of a directory and a slash in a glob is read on its own as it is read
there. -/
theorem ofText_below {base rest : List Char} {c : Char} {whole : Glob} (plain : IsPlain base)
    (solid : c ≠ '/')
    (accepted : ofText (String.ofList (base ++ '/' :: (rest ++ [c]))) = .ok whole) :
    ∃ glob, ofText (String.ofList (rest ++ [c])) = .ok glob ∧ Below base glob.parts whole.parts := by
  obtain ⟨last, read, finished⟩ := ofText_eq_ok.mp accepted
  rw [String.toList_ofList] at read
  obtain ⟨behind, name, later⟩ := Reader.readAll_append_eq_ok.mp read
  obtain ⟨mode, none_open, parts⟩ := readAll_of_plain plain rfl rfl name
  obtain ⟨_, step, later⟩ := Reader.readAll_cons_eq_ok.mp later
  obtain ⟨opened, inside, rfl⟩ := Reader.read_eq_ok.mp step
  -- Behind the slash the reader stands where the start is put when the name is put below.
  have below : { opened with last := some '/' } =
      Reader.start.lower (base.map .literal).reverse := by
    rw [Reader.readIn_plain mode] at inside
    obtain rfl := readPlain_of_plain rfl (by decide) none_open inside
    simp only [Reader.add, none_open, parts]
    rw [Reader.start, List.append_nil]
    rfl
  rw [below, Reader.lower_readAll Reader.opens_start] at later
  cases alone : (rest ++ [c]).foldlM Reader.read Reader.start with
  | error fault =>
    rw [alone] at later
    cases later
  | ok reader =>
    rw [alone] at later
    cases later
    have opens := Reader.opens_start.after_readAll alone
    have ends : reader.last ≠ some '/' := by
      rw [Reader.last_of_readAll alone]
      simpa using solid
    obtain ⟨parts, finished, below⟩ := Reader.finish_lower opens ends finished
    refine ⟨⟨parts⟩, ofText_eq_ok.mpr ⟨reader, ?_, finished⟩, below⟩
    rw [String.toList_ofList, alone]

end Transclude.Glob
