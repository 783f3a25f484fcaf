import Mathlib.Tactic.SplitIfs
import Transclude.Glob.Reader
import Transclude.Proofs.GlobMatching

/-!
Globs below a directory. A glob is read behind the name of a directory and a slash as it is read on
its own, but for the parts at the bottom of what has been read: there the name and the slash stand
below, and two stars at the start of the glob make one part together with the slash. So reading
commutes with putting the name and the slash under what has been read.
-/

namespace Transclude.Glob

/-- The parts that have been read of a glob, the last one first, with the parts of a name and
a slash put under them. -/
def lowerParts (name : List Part) : List Part → List Part
  | [] => .literal '/' :: name
  | [.leading] => .inner :: name
  | part :: parts => part :: lowerParts name parts

def lowerGroups (name : List Part) : List Group → List Group
  | [] => []
  | [group] => [{ group with before := lowerParts name group.before }]
  | group :: outer => group :: lowerGroups name outer

/-- A glob begins where a character before it would be a slash. -/
def Mode.lower : Mode → Mode
  | .star before => .star (some (before.getD '/'))
  | .stars before => .stars (some (before.getD '/'))
  | mode => mode

namespace Reader

/-- Puts the parts of a name and a slash under what has been read. -/
def lower (name : List Part) (reader : Reader) : Reader where
  mode := reader.mode.lower
  last := some (reader.last.getD '/')
  groups := lowerGroups name reader.groups
  parts :=
    match reader.groups with
    | [] => lowerParts name reader.parts
    | _ => reader.parts

/-- Nothing has been read that leaves a part. -/
def Bare (reader : Reader) : Prop := reader.groups = [] ∧ reader.parts = []

variable {name : List Part} {reader : Reader}

theorem lowerParts_cons {part : Part} {parts : List Part} (other : part ≠ .leading ∨ parts ≠ []) :
    lowerParts name (part :: parts) = part :: lowerParts name parts := by
  rw [lowerParts]
  rintro rfl rfl
  simp at other

theorem lowerParts_ne_nil (name parts : List Part) : lowerParts name parts ≠ [] := by
  fun_cases lowerParts name parts <;> simp

theorem lower_add {part : Part} (other : part ≠ .leading ∨ ¬reader.Bare) :
    (reader.lower name).add part = (reader.add part).lower name := by
  obtain ⟨mode, last, groups, parts⟩ := reader
  cases groups with
  | nil =>
    have known : part ≠ .leading ∨ parts ≠ [] := by simpa [Bare] using other
    simp only [lower, add, lowerParts_cons known]
    rfl
  | cons group outer => rfl

theorem lower_addMany : (reader.lower name).addMany = reader.addMany.lower name := by
  rw [addMany, addMany, lower_add (.inl (by simp)), lower_add (.inl (by simp))]

theorem lower_closeGroup :
    (reader.lower name).closeGroup = reader.closeGroup.map (lower name) := by
  obtain ⟨mode, last, groups, parts⟩ := reader
  match groups with
  | [] => rfl
  | [group] =>
    simp only [lower, closeGroup, lowerGroups, Except.map]
    rw [lowerParts_cons (.inl (by simp))]
    rfl
  | group :: next :: outer => rfl

theorem lower_nextBranch : (reader.lower name).nextBranch = reader.nextBranch.lower name := by
  obtain ⟨mode, last, groups, parts⟩ := reader
  match groups with
  | [] => exact lower_add (.inl (by simp))
  | [group] => rfl
  | group :: next :: outer => rfl

theorem lower_readPlain (c : Char) :
    (reader.lower name).readPlain c = (reader.readPlain c).map (lower name) := by
  unfold readPlain
  split
  · exact congrArg Except.ok (lower_add (.inl (by simp)))
  · rfl
  · rfl
  · obtain ⟨mode, last, groups, parts⟩ := reader
    cases groups <;> rfl
  · exact lower_closeGroup
  · exact congrArg Except.ok lower_nextBranch
  · rfl
  · exact congrArg Except.ok (lower_add (.inl (by simp)))

/-- The parts that have been read when two stars reach across directories with the slash before
them. -/
def across (part : Part) : List Part → List Part
  | .leading :: before => .leading :: before
  | .trailing :: before => .trailing :: before
  | _ :: before => part :: before
  | [] => [part]

theorem addAcross_eq (part : Part) :
    reader.addAcross part = { reader with mode := .plain, parts := across part reader.parts } := by
  obtain ⟨mode, last, groups, parts⟩ := reader
  cases parts with
  | nil => rfl
  | cons first before => cases first <;> rfl

theorem across_ne_nil (part : Part) (parts : List Part) : across part parts ≠ [] := by
  fun_cases across part parts <;> simp

theorem eq_of_across {part : Part} {parts : List Part} (other : part ≠ .leading)
    (same : across part parts = [.leading]) : parts = [.leading] := by
  cases parts with
  | nil => simp [across, other] at same
  | cons first before =>
    cases first with
    | leading => exact same
    | trailing => cases same
    | _ => exact absurd (List.cons.inj same).1 other

theorem across_lowerParts {part : Part} {parts : List Part} (some_part : parts ≠ [])
    (longer : parts ≠ [.leading]) (other : part ≠ .leading) :
    across part (lowerParts name parts) = lowerParts name (across part parts) := by
  cases parts with
  | nil => exact absurd rfl some_part
  | cons first before =>
    have known : first ≠ .leading ∨ before ≠ [] := by
      by_cases same : first = .leading
      · exact .inr fun nothing => longer (by rw [same, nothing])
      · exact .inl same
    rw [lowerParts_cons known]
    cases first with
    | leading | trailing => exact (lowerParts_cons known).symm
    | _ => exact (lowerParts_cons (.inl other)).symm

theorem across_inner_lowerParts {parts : List Part} (some_part : parts ≠ []) :
    across .inner (lowerParts name parts) = lowerParts name (across .inner parts) := by
  by_cases alone : parts = [.leading]
  · rw [alone]
    rfl
  · exact across_lowerParts some_part alone (by simp)

theorem lower_addAcross_inner (some_part : reader.parts ≠ []) :
    (reader.lower name).addAcross .inner = (reader.addAcross .inner).lower name := by
  obtain ⟨mode, last, groups, parts⟩ := reader
  rw [addAcross_eq, addAcross_eq]
  cases groups with
  | nil => simp only [lower, across_inner_lowerParts some_part, Mode.lower]
  | cons group outer => rfl

theorem lower_addAcross_of_group (inside : reader.groups ≠ []) (part : Part) :
    (reader.lower name).addAcross part = (reader.addAcross part).lower name := by
  obtain ⟨mode, last, groups, parts⟩ := reader
  rw [addAcross_eq, addAcross_eq]
  cases groups with
  | nil => exact absurd rfl inside
  | cons group outer => rfl

theorem isEmpty_lowerGroups (groups : List Group) :
    (lowerGroups name groups).isEmpty = groups.isEmpty := by
  fun_cases lowerGroups name groups <;> rfl

theorem afterBreak_lower (before : Option Char) :
    (reader.lower name).afterBreak before = reader.afterBreak before := by
  unfold afterBreak lower
  rw [isEmpty_lowerGroups]

theorem isEmpty_groups_lower :
    (reader.lower name).groups.isEmpty = reader.groups.isEmpty := isEmpty_lowerGroups _

/-- Behind the start of the glob there are parts below exactly where there are parts. -/
theorem isEmpty_parts_lower (begun : ¬reader.Bare) :
    (reader.lower name).parts.isEmpty = reader.parts.isEmpty := by
  obtain ⟨mode, last, groups, parts⟩ := reader
  cases groups with
  | cons group outer => rfl
  | nil =>
    have some_part : parts ≠ [] := fun nothing => begun ⟨rfl, nothing⟩
    show (lowerParts name parts).isEmpty = parts.isEmpty
    rw [List.isEmpty_eq_false_iff.mpr some_part,
      List.isEmpty_eq_false_iff.mpr (lowerParts_ne_nil name parts)]

/-- What two stars stand for in front of a character. -/
theorem lower_settle {before : Option Char} (first : before = none ↔ reader.Bare) (c : Char) :
    (reader.lower name).settle (some (before.getD '/')) (some c) =
      ((reader.settle before (some c)).1.lower name, (reader.settle before (some c)).2) := by
  by_cases bare : reader.Bare
  · obtain rfl := first.mpr bare
    obtain ⟨mode, last, groups, parts⟩ := reader
    obtain ⟨rfl, rfl⟩ := bare
    by_cases slash : c = '/'
    · rw [slash]
      rfl
    · have other : (some c == some '/') = false := by simp [slash]
      have left : settle (lower name ⟨mode, last, [], []⟩) (some '/') (some c) =
          ((lower name ⟨mode, last, [], []⟩).addMany, false) := by
        simp [settle, lower, lowerParts, lowerGroups, afterBreak, other]
      have right : settle ⟨mode, last, [], []⟩ none (some c) =
          (addMany ⟨mode, last, [], []⟩, false) := by
        simp [settle, other]
      rw [right, ← lower_addMany]
      exact left
  · obtain ⟨before, rfl⟩ := Option.ne_none_iff_exists'.mp fun nothing => bare (first.mp nothing)
    have groups_of : ∀ {next : Bool}, (!reader.groups.isEmpty && next) = true →
        reader.groups ≠ [] := by
      intro next inside nothing
      simp [nothing] at inside
    rw [Option.getD_some, settle, settle, isEmpty_parts_lower bare, afterBreak_lower,
      isEmpty_groups_lower]
    split_ifs with none_yet _ _ _ ended inside
    · rw [lower_add (.inr bare)]
    · rw [lower_addMany]
    · rw [lower_addMany]
    · rw [lower_addAcross_inner fun nothing => none_yet (by rw [nothing]; rfl)]
    · cases ended
    · rw [lower_addAcross_of_group (groups_of inside)]
    · rw [lower_addMany]

/-- What is known of a reader: nothing stands before the first character, before a star that is the
first character, and nowhere else; and where all that has been read is two stars with their slash,
the slash was read last. -/
structure Opens (reader : Reader) : Prop where
  start : reader.last = none → reader.mode = .plain ∧ reader.Bare
  plain : reader.mode = .plain → reader.Bare → reader.last = none
  star : ∀ before, reader.mode = .star before ∨ reader.mode = .stars before →
    (before = none ↔ reader.Bare)
  slash : reader.mode = .plain → reader.groups = [] → reader.parts = [.leading] →
    reader.last = some '/'

theorem opens_start : start.Opens where
  start _ := ⟨rfl, rfl, rfl⟩
  plain _ _ := rfl
  star := by rintro before (same | same) <;> cases same
  slash _ _ same := by cases same

theorem lower_readRange (held : Ranges) (c : Char) :
    (reader.lower name).readRange held c = (reader.readRange held c).map (lower name) := by
  unfold readRange
  split_ifs with closes waits dash
  · exact congrArg Except.ok (lower_add (.inl (by simp)))
  · cases held.close c <;> rfl
  · rfl
  · rfl

theorem readIn_plain (mode : reader.mode = .plain) (c : Char) :
    reader.readIn c = reader.readPlain c := by
  rw [readIn, mode]

theorem readIn_star {before : Option Char} (mode : reader.mode = .star before) (c : Char) :
    reader.readIn c =
      if c = '*' then .ok { reader with mode := .stars before }
      else (reader.add .many).readPlain c := by
  rw [readIn, mode]

theorem readIn_stars {before : Option Char} (mode : reader.mode = .stars before) (c : Char) :
    reader.readIn c =
      if (reader.settle before (some c)).2 then .ok (reader.settle before (some c)).1
      else (reader.settle before (some c)).1.readPlain c := by
  rw [readIn, mode]
  dsimp only
  split
  · next settled => rw [settled, if_pos rfl]
  · next settled => rw [settled, if_neg Bool.false_ne_true]

theorem readIn_opening (mode : reader.mode = .opening) (c : Char) :
    reader.readIn c =
      if c = '!' || c = '^' then .ok { reader with mode := .negated }
      else .ok (reader.firstRange false c) := by
  rw [readIn, mode]

theorem mode_lower : (reader.lower name).mode = reader.mode.lower := rfl

theorem lower_readIn (opens : reader.Opens) (c : Char) :
    (reader.lower name).readIn c = (reader.readIn c).map (lower name) := by
  cases mode : reader.mode with
  | plain =>
    have below : (reader.lower name).mode = .plain := by
      rw [mode_lower, mode]
      rfl
    rw [readIn_plain mode, readIn_plain below, lower_readPlain]
  | escaped =>
    rw [readIn, readIn, mode_lower, mode]
    exact congrArg Except.ok (lower_add (.inl (by simp)))
  | star before =>
    have below : (reader.lower name).mode = .star (some (before.getD '/')) := by
      rw [mode_lower, mode]
      rfl
    rw [readIn_star mode, readIn_star below]
    split_ifs
    · rfl
    · rw [lower_add (.inl (by simp)), lower_readPlain]
  | stars before =>
    have below : (reader.lower name).mode = .stars (some (before.getD '/')) := by
      rw [mode_lower, mode]
      rfl
    rw [readIn_stars mode, readIn_stars below, lower_settle (opens.star before (.inr mode))]
    dsimp only
    split_ifs
    · rfl
    · rw [lower_readPlain]
  | opening =>
    have below : (reader.lower name).mode = .opening := by
      rw [mode_lower, mode]
      rfl
    rw [readIn_opening mode, readIn_opening below]
    split_ifs <;> rfl
  | negated =>
    rw [readIn, readIn, mode_lower, mode]
    rfl
  | inRanges held =>
    rw [readIn, readIn, mode_lower, mode]
    exact lower_readRange held c

/-- Reading a character commutes with putting a name and a slash below. -/
theorem lower_read (opens : reader.Opens) (c : Char) :
    (reader.lower name).read c = (reader.read c).map (lower name) := by
  rw [read, read, lower_readIn opens]
  cases reader.readIn c <;> rfl

/-! What is known of a reader stays known. -/

/-- Something has been read that leaves a part other than two stars at the start. -/
def Filled (reader : Reader) : Prop :=
  reader.groups = [] → ∃ part parts, reader.parts = part :: parts ∧ part ≠ .leading

theorem filled_add {part : Part} (other : part ≠ .leading) : (reader.add part).Filled :=
  fun _ => ⟨part, reader.parts, rfl, other⟩

theorem Filled.not_bare (filled : reader.Filled) : ¬reader.Bare := by
  rintro ⟨none_open, nothing⟩
  obtain ⟨part, parts, same, -⟩ := filled none_open
  rw [nothing] at same
  cases same

theorem readPlain_cases {c : Char} {after : Reader} (plain : reader.mode = .plain)
    (went : reader.readPlain c = .ok after) :
    after = { reader with mode := .star reader.last } ∨
      after.mode = .opening ∨ after.mode = .escaped ∨ (after.mode = .plain ∧ after.Filled) := by
  unfold readPlain at went
  split at went
  · cases went
    exact .inr (.inr (.inr ⟨rfl, filled_add (by simp)⟩))
  · cases went
    exact .inl rfl
  · cases went
    exact .inr (.inl rfl)
  · cases went
    exact .inr (.inr (.inr ⟨plain, fun none_open => by cases none_open⟩))
  · unfold closeGroup at went
    split at went
    · cases went
    · cases went
      exact .inr (.inr (.inr ⟨rfl, fun _ => ⟨_, _, rfl, by simp⟩⟩))
  · cases went
    unfold nextBranch
    split
    · exact .inr (.inr (.inr ⟨rfl, filled_add (by simp)⟩))
    · exact .inr (.inr (.inr ⟨rfl, fun none_open => by cases none_open⟩))
  · cases went
    exact .inr (.inr (.inl rfl))
  · cases went
    exact .inr (.inr (.inr ⟨rfl, filled_add (by simp)⟩))

theorem not_bare_addAcross (part : Part) : ¬(reader.addAcross part).Bare := by
  rw [addAcross_eq]
  exact fun bare => across_ne_nil part reader.parts bare.2

/-- Two stars leave a part, and take up no character but a slash. -/
theorem settle_some (before : Option Char) (c : Char) :
    let settled := reader.settle before (some c)
    settled.1.mode = .plain ∧ settled.1.last = reader.last ∧ ¬settled.1.Bare ∧
      (settled.2 = true → c = '/') := by
  have many : reader.addMany.mode = .plain ∧ reader.addMany.last = reader.last ∧
      ¬reader.addMany.Bare := ⟨rfl, rfl, fun bare => List.cons_ne_nil _ _ bare.2⟩
  have across : ∀ part, (reader.addAcross part).mode = .plain ∧
      (reader.addAcross part).last = reader.last ∧ ¬(reader.addAcross part).Bare := fun part =>
    ⟨by rw [addAcross_eq], by rw [addAcross_eq], not_bare_addAcross part⟩
  unfold settle
  split_ifs with nothing first _ slash ended
  · exact ⟨rfl, rfl, fun bare => List.cons_ne_nil _ _ bare.2, fun _ => by simpa using first⟩
  · exact ⟨many.1, many.2.1, many.2.2, fun taken => by cases taken⟩
  · exact ⟨many.1, many.2.1, many.2.2, fun taken => by cases taken⟩
  · exact ⟨(across _).1, (across _).2.1, (across _).2.2, fun _ => by simpa using slash⟩
  · cases ended
  · exact ⟨(across _).1, (across _).2.1, (across _).2.2, fun taken => by cases taken⟩
  · exact ⟨many.1, many.2.1, many.2.2, fun taken => by cases taken⟩

/-- A reader that does not wait for the meaning of stars, when a character has been read. -/
theorem opens_of_mode {after : Reader} (c : Char)
    (star : ∀ before, after.mode ≠ .star before ∧ after.mode ≠ .stars before)
    (plain : after.mode = .plain → ¬after.Bare)
    (slash : after.mode = .plain → after.groups = [] → after.parts = [.leading] → c = '/') :
    Opens { after with last := some c } where
  start nothing := by cases nothing
  plain mode bare := absurd bare (plain mode)
  star before waits := (waits.elim (star before).1 (star before).2).elim
  slash mode none_open alone := congrArg some (slash mode none_open alone)

theorem opens_of_filled {after : Reader} (plain : after.mode = .plain) (filled : after.Filled)
    (c : Char) : Opens { after with last := some c } := by
  refine opens_of_mode c (by simp [plain]) (fun _ => filled.not_bare) fun _ none_open alone => ?_
  obtain ⟨part, parts, same, other⟩ := filled none_open
  rw [alone] at same
  cases same
  exact absurd rfl other

/-- After a character to which nothing before it gives a meaning. -/
theorem opens_of_readPlain {c : Char} {after : Reader} (plain : reader.mode = .plain)
    (first : reader.last = none ↔ reader.Bare) (went : reader.readPlain c = .ok after) :
    Opens { after with last := some c } := by
  rcases readPlain_cases plain went with rfl | opening | escaped | ⟨again, filled⟩
  · refine ⟨fun nothing => (by cases nothing), fun mode => (by cases mode), ?_,
      fun mode => (by cases mode)⟩
    rintro before (same | same)
    · cases same
      exact first
    · cases same
  · exact opens_of_mode c (by simp [opening]) (by simp [opening]) (by simp [opening])
  · exact opens_of_mode c (by simp [escaped]) (by simp [escaped]) (by simp [escaped])
  · exact opens_of_filled again filled c

theorem opens_of_readRange {held : Ranges} {c : Char} {after : Reader}
    (went : reader.readRange held c = .ok after) : Opens { after with last := some c } := by
  unfold readRange at went
  split_ifs at went with closes waits dash
  · cases went
    exact opens_of_filled rfl (filled_add (by simp)) c
  · cases closed : held.close c with
    | error fault =>
      rw [closed] at went
      cases went
    | ok held =>
      rw [closed] at went
      cases went
      exact opens_of_mode c (by simp) (by simp) (by simp)
  · cases went
    exact opens_of_mode c (by simp) (by simp) (by simp)
  · cases went
    exact opens_of_mode c (by simp) (by simp) (by simp)

theorem read_eq_ok {c : Char} {after : Reader} :
    reader.read c = .ok after ↔
      ∃ next, reader.readIn c = .ok next ∧ after = { next with last := some c } := by
  rw [read]
  cases reader.readIn c <;> simp [Except.map, eq_comm]

/-- Reading a character keeps what is known. -/
theorem Opens.after_read (opens : reader.Opens) {c : Char} {after : Reader}
    (went : reader.read c = .ok after) : after.Opens := by
  obtain ⟨next, step, rfl⟩ := read_eq_ok.mp went
  have begun : reader.mode ≠ .plain → reader.last ≠ none := fun other nothing =>
    other (opens.start nothing).1
  cases mode : reader.mode with
  | plain =>
    rw [readIn_plain mode] at step
    exact opens_of_readPlain mode
      ⟨fun nothing => (opens.start nothing).2, opens.plain mode⟩ step
  | escaped =>
    rw [readIn, mode] at step
    cases step
    exact opens_of_filled rfl (filled_add (by simp)) c
  | star before =>
    rw [readIn_star mode] at step
    split_ifs at step with again
    · cases step
      refine ⟨fun nothing => (by cases nothing), fun mode => (by cases mode), ?_,
        fun mode => (by cases mode)⟩
      rintro other (same | same)
      · cases same
      · cases same
        exact opens.star before (.inl mode)
    · refine opens_of_readPlain rfl ?_ step
      exact ⟨fun nothing => absurd nothing (begun (by simp [mode])),
        fun bare => absurd bare (filled_add (by simp)).not_bare⟩
  | stars before =>
    rw [readIn_stars mode] at step
    obtain ⟨plain, last, filled, taken⟩ := reader.settle_some before c
    split_ifs at step with takes
    · cases step
      exact opens_of_mode c (by simp [plain]) (fun _ => filled) fun _ _ _ => taken takes
    · refine opens_of_readPlain plain ?_ step
      rw [last]
      exact ⟨fun nothing => absurd nothing (begun (by simp [mode])),
        fun bare => absurd bare filled⟩
  | opening =>
    rw [readIn_opening mode] at step
    split_ifs at step
    · cases step
      exact opens_of_mode c (by simp) (by simp) (by simp)
    · cases step
      exact opens_of_mode c (by simp [firstRange]) (by simp [firstRange]) (by simp [firstRange])
  | negated =>
    rw [readIn, mode] at step
    cases step
    exact opens_of_mode c (by simp [firstRange]) (by simp [firstRange]) (by simp [firstRange])
  | inRanges held =>
    rw [readIn, mode] at step
    exact opens_of_readRange step

theorem readAll_cons_eq_ok {c : Char} {text : List Char} {after : Reader} :
    (c :: text).foldlM read reader = .ok after ↔
      ∃ next, reader.read c = .ok next ∧ text.foldlM read next = .ok after := by
  rw [List.foldlM_cons]
  cases reader.read c <;> simp [bind, Except.bind]

theorem readAll_append_eq_ok {front back : List Char} {after : Reader} :
    (front ++ back).foldlM read reader = .ok after ↔
      ∃ next, front.foldlM read reader = .ok next ∧ back.foldlM read next = .ok after := by
  rw [List.foldlM_append]
  cases front.foldlM read reader <;> simp [bind, Except.bind]

theorem Opens.after_readAll (opens : reader.Opens) {text : List Char} {after : Reader}
    (went : text.foldlM read reader = .ok after) : after.Opens := by
  induction text generalizing reader with
  | nil =>
    cases went
    exact opens
  | cons c text ih =>
    obtain ⟨next, step, later⟩ := readAll_cons_eq_ok.mp went
    exact ih (opens.after_read step) later

/-- Reading a text commutes with putting a name and a slash below. -/
theorem lower_readAll (opens : reader.Opens) (text : List Char) :
    text.foldlM read (reader.lower name) = (text.foldlM read reader).map (lower name) := by
  induction text generalizing reader with
  | nil => rfl
  | cons c text ih =>
    rw [List.foldlM_cons, List.foldlM_cons, lower_read opens]
    cases step : reader.read c with
    | error fault => rfl
    | ok next => exact ih (opens.after_read step)

theorem last_of_readAll {text : List Char} {c : Char} {after : Reader}
    (went : (text ++ [c]).foldlM read reader = .ok after) : after.last = some c := by
  obtain ⟨before, -, later⟩ := readAll_append_eq_ok.mp went
  obtain ⟨_, step, done⟩ := readAll_cons_eq_ok.mp later
  cases done
  obtain ⟨next, -, rfl⟩ := read_eq_ok.mp step
  rfl

end Reader

end Transclude.Glob
