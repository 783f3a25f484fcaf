import Transclude.Proofs.IndentSteps
import Transclude.Proofs.PatternSearch

/-!
Taking the indentation of the first line from all lines. The pattern for it finds the run of spaces
and tabs at the start of a text and nothing anywhere else, so what is taken from a line is exactly
the run of the first one, if the line begins with it.
-/

namespace Transclude

namespace Pattern

def blanks : CharSet := .union (.single ' ') (.single '\t')

theorem contains_blanks : blanks.contains = Indent.isBlank := by
  funext c
  rw [Bool.eq_iff_iff, blanks, CharSet.contains, Bool.or_eq_true, contains_single, contains_single,
    Indent.isBlank, Bool.or_eq_true, beq_iff_eq, beq_iff_eq]

theorem states_leadingBlanks :
    Indent.leadingBlanks.states = (State.look .textStart 1 :: loop 1 blanks).toArray := rfl

/-- At the start of a text the run of blanks is found, if there is one. -/
theorem follow_leadingBlanks {text : List Char} {fuel : Nat}
    (enough : Indent.leadingBlanks.states.size + 2 * text.length + 2 ≤ fuel) :
    let run := text.takeWhile Indent.isBlank
    let whole := follow Indent.leadingBlanks.states fuel ∅ [⟨0, ⟨0, none, text⟩, [(0, 0)]⟩]
    (run = [] → whole = (none, ∅)) ∧
      (run ≠ [] → whole.1 = some [(1, run.length), (3, run.length), (2, 0), (0, 0)]) := by
  have placed := Placed.whole (State.look .textStart 1 :: loop 1 blanks)
  have short := (List.takeWhile_prefix (p := Indent.isBlank) (l := text)).length_le
  rw [states_leadingBlanks] at enough ⊢
  have looks := placed.head
  obtain ⟨more, rfl⟩ : ∃ more,
      fuel = more + (2 * (text.takeWhile Indent.isBlank).length + 4) + 1 := by
    refine ⟨fuel - (2 * (text.takeWhile Indent.isBlank).length + 5), ?_⟩
    have size : (State.look .textStart 1 :: loop 1 blanks).toArray.size = 6 := rfl
    omega
  have looped := follow_loop placed.tail more ⟨0, none, text⟩ [(0, 0)]
  rw [contains_blanks] at looped
  simp only [Nat.zero_add] at looped
  dsimp only
  rw [follow]
  simp only [looks, step, Look.holds, Option.isNone_none, if_true]
  exact looped

/-- Behind the start of a text nothing is found. -/
theorem searchFrom_leadingBlanks (fuel index : Nat) (c : Char) (rest : List Char) :
    Indent.leadingBlanks.searchFrom fuel ∅ index (some c) rest = none := by
  have blocked : ∀ index d more, follow Indent.leadingBlanks.states fuel ∅
      [⟨0, ⟨index, some d, more⟩, [(0, index)]⟩] = (none, ∅) := by
    intro index d more
    cases fuel with
    | zero => rfl
    | succ fuel =>
      have looks := (Placed.whole (State.look .textStart 1 :: loop 1 blanks)).head
      rw [states_leadingBlanks, follow]
      simp only [looks, step, Look.holds, Option.isNone_some, Bool.false_eq_true, if_false]
      exact follow_nil _ _ _
  induction rest generalizing index c with
  | nil => rw [searchFrom, blocked]
  | cons d rest ih =>
    rw [searchFrom, blocked]
    exact ih (index + 1) d

/-- The run of blanks at the start of a text is what the pattern for it finds. -/
theorem captureOrMatch?_leadingBlanks (text : String) :
    Indent.leadingBlanks.captureOrMatch? text =
      if text.toList.takeWhile Indent.isBlank = [] then none
      else some (String.ofList (text.toList.takeWhile Indent.isBlank)) := by
  have found := follow_leadingBlanks (le_fuelFor Indent.leadingBlanks text.toList.length)
  rw [captureOrMatch?, search?]
  split
  · next unindented =>
    have nothing : Indent.leadingBlanks.searchFrom
        (Indent.leadingBlanks.fuelFor text.toList.length) ∅ 0 none text.toList = none := by
      rw [searchFrom, found.1 unindented]
      cases text.toList with
      | nil => rfl
      | cons c rest => exact searchFrom_leadingBlanks _ 1 c rest
    rw [nothing]
    rfl
  · next indented =>
    have run : text.toList.take (text.toList.takeWhile Indent.isBlank).length =
        text.toList.takeWhile Indent.isBlank :=
      (List.prefix_iff_eq_take.mp (List.takeWhile_prefix _)).symm
    have something : Indent.leadingBlanks.searchFrom
        (Indent.leadingBlanks.fuelFor text.toList.length) ∅ 0 none text.toList =
          some [(1, (text.toList.takeWhile Indent.isBlank).length),
            (3, (text.toList.takeWhile Indent.isBlank).length), (2, 0), (0, 0)] := by
      rw [searchFrom]
      split
      · next marks visited known =>
        rw [known] at found
        exact found.2 indented
      · next visited known =>
        rw [known] at found
        cases found.2 indented
    rw [something]
    simp [part?, slot?, run]

end Pattern

namespace Indent

def indent (line : String) : List Char := line.toList.takeWhile isBlank

/-- All lines lose the indentation of the first one. -/
theorem dedent_cons (first : String) (rest : List String) :
    dedent leadingBlanks (first :: rest) = (first :: rest).map (strip (indent first)) := by
  have lead : (lead leadingBlanks (first :: rest)).toList = indent first := by
    rw [lead, List.head?_cons, Option.bind_some, Pattern.captureOrMatch?_leadingBlanks, indent]
    split
    · next unindented =>
      rw [unindented]
      rfl
    · exact String.toList_ofList
  rw [dedent, lead]

end Indent

end Transclude
