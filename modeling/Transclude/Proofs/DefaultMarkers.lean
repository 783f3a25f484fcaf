import Transclude.Block
import Transclude.Proofs.PatternSearch

/-!
What the default markers recognise. A default end marker is a word, any one character of the same
line and `end`. A default start marker is a word and a colon with something other than a blank
behind it, and its parameter is everything up to the next blank.
-/

namespace Transclude

namespace Pattern

/-- Every character but a blank. -/
def solid : CharSet := .complement .blank

/-- The marks of a start marker at the beginning of a text, the word of which with its colon is
`lead`. -/
def markStart (lead : List Char) (index : Nat) (rest : List Char) : Option Marks :=
  let parameter := (rest.drop lead.length).takeWhile solid.contains
  if lead <+: rest ∧ parameter ≠ [] then
    let start := index + lead.length
    some [(1, start + parameter.length), (3, start + parameter.length), (2, start), (0, index)]
  else none

theorem states_startMarker (word : String) :
    (startMarker word).states =
      (row 0 ((word ++ ":").toList.map CharSet.single) ++
        loop (word ++ ":").toList.length solid).toArray := by
  have reads : (Expr.literal (word ++ ":")).fragment.IsRow _ := isRow_literal (by simp)
  have size := reads.size
  have states := reads.states 0
  rw [List.length_map] at size
  rw [Nat.zero_add, size] at states
  rw [startMarker, ofExpr, Expr.automaton]
  simp only [Expr.fragment, Fragment.concat, Fragment.group, Fragment.repeated, Fragment.copies,
    Fragment.oneOrMore, Fragment.prefer, Fragment.char, Nat.zero_add, size, states]
  simp [loop, solid, Nat.add_assoc]

/-- What a start marker is found to be at the beginning of a text. -/
theorem follow_startMarker (word : String) (index : Nat) {fuel : Nat} (before : Option Char)
    {rest : List Char} (enough : (startMarker word).states.size + 2 * rest.length + 2 ≤ fuel) :
    match markStart (word ++ ":").toList index rest with
    | none => follow (startMarker word).states fuel ∅
        [⟨0, ⟨index, before, rest⟩, [(0, index)]⟩] = (none, ∅)
    | some marks => (follow (startMarker word).states fuel ∅
        [⟨0, ⟨index, before, rest⟩, [(0, index)]⟩]).1 = some marks := by
  rw [states_startMarker] at enough ⊢
  generalize (word ++ ":").toList = lead at enough ⊢
  have placed := Placed.whole (row 0 (lead.map CharSet.single) ++ loop lead.length solid)
  have behind_row := placed.right
  rw [length_row, List.length_map, Nat.zero_add] at behind_row
  have size : (row 0 (lead.map CharSet.single) ++ loop lead.length solid).toArray.size =
      lead.length + 5 := by
    rw [List.size_toArray, List.length_append, length_row, List.length_map]
    rfl
  rw [size] at enough
  obtain ⟨spare, rfl⟩ : ∃ spare, fuel = spare + (lead.map CharSet.single).length :=
    ⟨fuel - lead.length, by rw [List.length_map]; omega⟩
  rw [List.length_map] at enough
  rw [markStart, follow_row placed.left]
  by_cases lead_first : lead <+: rest
  · obtain ⟨after, rfl⟩ := lead_first
    obtain ⟨behind, passed, rfl, reached⟩ :=
      exists_pass_literal ⟨index, before, lead ++ after⟩ rfl
    have reached : behind.index = index + lead.length := reached
    have short := (List.takeWhile_prefix (p := solid.contains) (l := behind.rest)).length_le
    rw [List.length_append] at enough
    obtain ⟨more, rfl⟩ : ∃ more,
        spare = more + (2 * (behind.rest.takeWhile solid.contains).length + 4) :=
      ⟨spare - (2 * (behind.rest.takeWhile solid.contains).length + 4), by omega⟩
    have looped := follow_loop behind_row more behind [(0, index)]
    rw [passed, List.drop_left, List.length_map, Nat.zero_add]
    by_cases blank : behind.rest.takeWhile solid.contains = []
    · rw [if_neg fun both => both.2 blank]
      exact looped.1 blank
    · rw [if_pos ⟨List.prefix_append _ _, blank⟩, ← reached]
      exact looped.2 blank
  · have blocked : pass (lead.map CharSet.single) ⟨index, before, rest⟩ = none := by
      cases passed : pass (lead.map CharSet.single) ⟨index, before, rest⟩ with
      | none => rfl
      | some behind => exact absurd ⟨behind.rest, (pass_literal passed).1.symm⟩ lead_first
    rw [blocked, if_neg fun both => lead_first both.1]

theorem markStart_eq_some {lead rest : List Char} {index : Nat} {marks : Marks} :
    markStart lead index rest = some marks ↔
      ∃ after, rest = lead ++ after ∧ after.takeWhile solid.contains ≠ [] ∧
        marks = [(1, index + lead.length + (after.takeWhile solid.contains).length),
          (3, index + lead.length + (after.takeWhile solid.contains).length),
          (2, index + lead.length), (0, index)] := by
  rw [markStart]
  constructor
  · intro found
    obtain ⟨⟨⟨after, rfl⟩, nonempty⟩, same⟩ := Option.ite_none_right_eq_some.mp found
    rw [List.drop_left] at nonempty same
    exact ⟨after, rfl, nonempty, (Option.some.inj same).symm⟩
  · rintro ⟨after, rfl, nonempty, rfl⟩
    rw [List.drop_left, if_pos ⟨List.prefix_append _ _, nonempty⟩]

/-- A parameter in a text stands behind `lead` and reaches to the next blank; this is the first one
that is not empty. -/
def FirstParameter (lead text parameter : List Char) : Prop :=
  ∃ front after, text = front ++ lead ++ after ∧ parameter = after.takeWhile solid.contains ∧
    parameter ≠ [] ∧
    ∀ other more, text = other ++ lead ++ more → more.takeWhile solid.contains ≠ [] →
      front.length ≤ other.length

theorem search?_startMarker (word : String) (text : List Char) :
    (startMarker word).search? text = firstOf (markStart (word ++ ":").toList) 0 text := by
  have enough : ∀ rest : List Char, rest.length ≤ text.length →
      (startMarker word).states.size + 2 * rest.length + 2 ≤
        (startMarker word).fuelFor text.length := by
    intro rest short
    have whole := le_fuelFor (startMarker word) text.length
    omega
  refine searchFrom_eq (fun index before rest short here => ?_)
    (fun index before rest marks short here => ?_) 0 none (Nat.le_refl text.length)
  · have followed := follow_startMarker word index before (enough rest short)
    rwa [here] at followed
  · have followed := follow_startMarker word index before (enough rest short)
    rwa [here] at followed

/-- The part of a text that the group of a start marker takes. -/
theorem part?_one (front lead after : List Char) (length first : Nat) :
    part? (front ++ lead ++ after)
        [(1, first), (3, front.length + lead.length + length), (2, front.length + lead.length),
          (0, front.length)] 1 =
      some (String.ofList (after.take length)) := by
  have start : (front ++ lead ++ after).drop (front.length + lead.length) = after := by
    rw [← List.length_append, List.drop_left]
  show some (String.ofList (((front ++ lead ++ after).drop (front.length + lead.length)).take
    (front.length + lead.length + length - (front.length + lead.length)))) = _
  rw [start, Nat.add_sub_cancel_left]

/-- A default start marker captures the first parameter of a text. -/
theorem capture?_startMarker {word text parameter : String} :
    (startMarker word).capture? text = some parameter ↔
      FirstParameter (word ++ ":").toList text.toList parameter.toList := by
  rw [capture?, search?_startMarker, Option.bind_eq_some_iff]
  generalize (word ++ ":").toList = lead
  have whole : ∀ after : List Char, after.take (after.takeWhile solid.contains).length =
      after.takeWhile solid.contains := fun after =>
    (List.prefix_iff_eq_take.mp (List.takeWhile_prefix _)).symm
  have succeeds : ∀ other more, text.toList = other ++ more →
      ((markStart lead (0 + other.length) more).isSome = true ↔
        ∃ rest, more = lead ++ rest ∧ rest.takeWhile solid.contains ≠ []) := by
    intro other more _
    rw [Option.isSome_iff_exists]
    simp only [markStart_eq_some]
    constructor
    · rintro ⟨marks, rest, same, nonempty, -⟩
      exact ⟨rest, same, nonempty⟩
    · rintro ⟨rest, same, nonempty⟩
      exact ⟨_, rest, same, nonempty, rfl⟩
  constructor
  · rintro ⟨marks, found, taken⟩
    obtain ⟨front, back, split, here, least⟩ := firstOf_eq_some.mp found
    obtain ⟨after, rfl, nonempty, rfl⟩ := markStart_eq_some.mp here
    rw [Nat.zero_add, split, ← List.append_assoc, part?_one, whole] at taken
    rw [← List.append_assoc] at split
    refine ⟨front, after, split, ?_, ?_, fun other more same solid_next => ?_⟩
    · rw [← Option.some.inj taken, String.toList_ofList]
    · rwa [← Option.some.inj taken, String.toList_ofList]
    · rw [List.append_assoc] at same
      exact least other (lead ++ more) same
        ((succeeds other (lead ++ more) same).mpr ⟨more, rfl, solid_next⟩)
  · rintro ⟨front, after, split, known, nonempty, least⟩
    rw [known] at nonempty
    have place : text.toList = front ++ (lead ++ after) := by rw [split, List.append_assoc]
    refine ⟨_, firstOf_eq_some.mpr ⟨front, lead ++ after, place,
      markStart_eq_some.mpr ⟨after, rfl, nonempty, rfl⟩, fun other more same success => ?_⟩, ?_⟩
    · obtain ⟨rest, rfl, solid_next⟩ := (succeeds other more same).mp success
      exact least other rest (by rw [same, List.append_assoc]) solid_next
    · rw [Nat.zero_add, split, part?_one, whole, ← known, String.ofList_toList]

/-- The sets of characters that a default end marker reads. -/
def endSets (word : String) : List CharSet :=
  word.toList.map .single ++
    [.complement (.single '\n'), .single 'e', .single 'n', .single 'd']

theorem states_endMarker {word : String} (nonempty : word ≠ "") :
    (endMarker word).states = (row 0 (endSets word) ++ [State.accept]).toArray := by
  have reads := ((((isRow_literal nonempty).concat
    (Fragment.IsRow.char (.complement (.single '\n')))).concat
    (Fragment.IsRow.char (.single 'e'))).concat (Fragment.IsRow.char (.single 'n'))).concat
    (Fragment.IsRow.char (.single 'd'))
  have states := reads.states 0
  rw [Nat.zero_add] at states
  simp only [List.append_assoc, List.cons_append, List.nil_append] at states
  rw [endMarker, ofExpr, Expr.automaton, endSets, ← states]
  rfl

theorem isSome_pass_endSets {word : String} (position : Position) :
    (pass (endSets word) position).isSome = true ↔
      ∃ c after, position.rest = word.toList ++ c :: 'e' :: 'n' :: 'd' :: after ∧ c ≠ '\n' := by
  have sets : endSets word = word.toList.map .single ++
      (.complement (.single '\n') :: ['e', 'n', 'd'].map .single) := rfl
  have other : ∀ c : Char, (CharSet.complement (.single '\n')).contains c = true ↔ c ≠ '\n' := by
    intro c
    rw [CharSet.contains, Bool.not_eq_true', ← Bool.not_eq_true, contains_single]
  rw [sets, pass_append, Option.isSome_bind, Option.any_eq_true]
  constructor
  · rintro ⟨behind, passed, ended⟩
    rw [(pass_literal passed).1]
    rw [pass] at ended
    split at ended
    · cases ended
    · next c rest comes =>
      split at ended
      · next fits =>
        obtain ⟨after, split⟩ := isSome_pass_literal.mp ended
        refine ⟨c, after, ?_, (other c).mp fits⟩
        rw [comes]
        exact congrArg (fun later => word.toList ++ c :: later) split
      · cases ended
  · rintro ⟨c, after, comes, inside⟩
    obtain ⟨behind, passed, left, -⟩ := exists_pass_literal position comes
    refine ⟨behind, passed, ?_⟩
    rw [pass, left]
    simp only [if_pos ((other c).mpr inside)]
    exact isSome_pass_literal.mpr ⟨after, rfl⟩

/-- The marks of an end marker at the beginning of a text. -/
def markEnd (word : String) (index : Nat) (rest : List Char) : Option Marks :=
  if (pass (endSets word) ⟨index, none, rest⟩).isSome then
    some [(1, index + (endSets word).length), (0, index)]
  else none

/-- What an end marker is found to be at the beginning of a text. -/
theorem follow_endMarker {word : String} (nonempty : word ≠ "") {index fuel : Nat}
    (before : Option Char) {rest : List Char}
    (enough : (endMarker word).states.size + 2 * rest.length + 2 ≤ fuel) :
    follow (endMarker word).states fuel ∅ [⟨0, ⟨index, before, rest⟩, [(0, index)]⟩] =
      (markEnd word index rest, ∅) := by
  rw [states_endMarker nonempty] at enough ⊢
  have placed := Placed.whole (row 0 (endSets word) ++ [State.accept])
  have accepts := placed.right.head
  rw [length_row, Nat.zero_add] at accepts
  rw [List.size_toArray, List.length_append, length_row] at enough
  obtain ⟨spare, rfl⟩ : ∃ spare, fuel = spare + 1 + (endSets word).length :=
    ⟨fuel - 1 - (endSets word).length, by omega⟩
  rw [markEnd, follow_row placed.left]
  cases passed : pass (endSets word) ⟨index, before, rest⟩ with
  | none =>
    have blocked : ¬(pass (endSets word) ⟨index, none, rest⟩).isSome = true := by
      rw [isSome_pass_endSets, ← isSome_pass_endSets ⟨index, before, rest⟩, passed]
      exact Bool.false_ne_true
    rw [if_neg blocked]
  | some behind =>
    have free : (pass (endSets word) ⟨index, none, rest⟩).isSome = true := by
      rw [isSome_pass_endSets, ← isSome_pass_endSets ⟨index, before, rest⟩, passed]
      rfl
    rw [if_pos free]
    simp only [follow, Nat.zero_add, accepts, index_pass passed]

theorem search?_endMarker {word : String} (nonempty : word ≠ "") (text : List Char) :
    (endMarker word).search? text = firstOf (markEnd word) 0 text := by
  have enough : ∀ rest : List Char, rest.length ≤ text.length →
      (endMarker word).states.size + 2 * rest.length + 2 ≤
        (endMarker word).fuelFor text.length := by
    intro rest short
    have whole := le_fuelFor (endMarker word) text.length
    omega
  refine searchFrom_eq (fun index before rest short here => ?_)
    (fun index before rest marks short here => ?_) 0 none (Nat.le_refl text.length)
  · rw [follow_endMarker nonempty before (enough rest short), here]
  · rw [follow_endMarker nonempty before (enough rest short), here]

/-- A default end marker matches where the word, one character of the same line and `end` stand in
a text. -/
theorem isMatch_endMarker {word : String} (nonempty : word ≠ "") {text : String} :
    (endMarker word).isMatch text = true ↔
      ∃ front c after, text.toList = front ++ word.toList ++ c :: 'e' :: 'n' :: 'd' :: after ∧
        c ≠ '\n' := by
  have matched : ∀ index rest, (markEnd word index rest).isSome = true ↔
      ∃ c after, rest = word.toList ++ c :: 'e' :: 'n' :: 'd' :: after ∧ c ≠ '\n' := by
    intro index rest
    rw [markEnd, ← isSome_pass_endSets ⟨index, none, rest⟩]
    split
    · next free => simp [free]
    · next blocked => simp [blocked]
  rw [isMatch, search?_endMarker nonempty, isSome_firstOf]
  simp only [matched]
  constructor
  · rintro ⟨front, back, split, c, after, rfl, inside⟩
    exact ⟨front, c, after, by rw [split, List.append_assoc], inside⟩
  · rintro ⟨front, c, after, split, inside⟩
    exact ⟨front, _, by rw [split, List.append_assoc], c, after, rfl, inside⟩

end Pattern

namespace Markers

open Pattern

/-! What the default markers of a directive find in a node, computed without their patterns. -/

theorem parameter?_standard (directive : Directive) (node : String) :
    (standard directive).parameter? node =
      (firstOf (markStart (directive.name ++ ":").toList) 0 node.toList).bind fun marks =>
        part? node.toList marks 1 :=
  congrArg (Option.bind · _) (search?_startMarker directive.name node.toList)

theorem isStop_standard (directive : Directive) (node : String) :
    (standard directive).isStop node = (firstOf (markEnd directive.name) 0 node.toList).isSome :=
  congrArg Option.isSome (search?_endMarker (by cases directive <;> decide) node.toList)

end Markers

end Transclude
