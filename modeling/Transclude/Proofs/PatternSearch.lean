import Mathlib.Data.List.TakeWhile
import Transclude.Pattern.Basic

/-!
How a search runs over an automaton that begins with a row of character sets. A row leaves no
choice: it is passed, or the attempt at that place comes to nothing. A greedy loop behind it takes
up a choice only when the match can no longer fail, so that an attempt that fails leaves no trace
for the next one, and the search finds the first place at which an attempt succeeds.
-/

namespace Transclude

/-- Some states that stand in an automaton one behind the other, from a number on. -/
def Placed (states : Array State) (start : Nat) (part : List State) : Prop :=
  ∀ i, i < part.length → states[start + i]? = part[i]?

namespace Placed

variable {states : Array State} {start : Nat}

theorem whole (part : List State) : Placed part.toArray 0 part := by
  intro i _
  rw [Nat.zero_add, List.getElem?_toArray]

theorem head {state : State} {rest : List State} (placed : Placed states start (state :: rest)) :
    states[start]? = some state := by
  have first := placed 0 (Nat.zero_lt_succ _)
  rwa [Nat.add_zero, List.getElem?_cons_zero] at first

theorem tail {state : State} {rest : List State} (placed : Placed states start (state :: rest)) :
    Placed states (start + 1) rest := by
  intro i inside
  have later := placed (i + 1) (Nat.succ_lt_succ inside)
  rwa [List.getElem?_cons_succ, ← Nat.add_assoc, Nat.add_right_comm] at later

theorem left {front back : List State} (placed : Placed states start (front ++ back)) :
    Placed states start front := by
  intro i inside
  have here := placed i (by rw [List.length_append]; omega)
  rwa [List.getElem?_append_left inside] at here

theorem right {front back : List State} (placed : Placed states start (front ++ back)) :
    Placed states (start + front.length) back := by
  intro i inside
  have here := placed (front.length + i) (by rw [List.length_append]; omega)
  rwa [List.getElem?_append_right (Nat.le_add_right _ _), Nat.add_sub_cancel_left,
    ← Nat.add_assoc] at here

end Placed

/-- States that read one character of each of some sets. -/
def row (start : Nat) : List CharSet → List State
  | [] => []
  | set :: rest => .char set (start + 1) :: row (start + 1) rest

theorem length_row (start : Nat) (sets : List CharSet) : (row start sets).length = sets.length := by
  induction sets generalizing start with
  | nil => rfl
  | cons set rest ih => rw [row, List.length_cons, ih, List.length_cons]

theorem row_append (start : Nat) (front back : List CharSet) :
    row start (front ++ back) = row start front ++ row (start + front.length) back := by
  induction front generalizing start with
  | nil => rfl
  | cons set rest ih =>
    rw [List.cons_append, row, ih, row, List.cons_append, List.length_cons, Nat.add_assoc,
      Nat.add_comm 1]

/-- A fragment that reads one character of each of some sets. -/
structure Fragment.IsRow (a : Fragment) (sets : List CharSet) : Prop where
  size : a.size = sets.length
  states : ∀ start, a.states start (start + a.size) = row start sets

namespace Fragment.IsRow

theorem char (set : CharSet) : (Fragment.char set).IsRow [set] := ⟨rfl, fun _ => rfl⟩

theorem concat {a b : Fragment} {front back : List CharSet} (first : a.IsRow front)
    (second : b.IsRow back) : (a.concat b).IsRow (front ++ back) := by
  have size : (a.concat b).size = a.size + b.size := rfl
  refine ⟨by rw [size, first.size, second.size, List.length_append], fun start => ?_⟩
  rw [size, ← Nat.add_assoc, row_append, ← first.size, ← first.states start,
    ← second.states (start + a.size)]
  rfl

end Fragment.IsRow

open Transclude.Expr in
/-- The expression of a text reads its characters one by one. -/
theorem isRow_literal {text : String} (nonempty : text ≠ "") :
    (literal text).fragment.IsRow (text.toList.map CharSet.single) := by
  have more : ∀ (rest : List Char) (e : Expr) (sets : List CharSet), e.fragment.IsRow sets →
      (rest.foldl (fun e d => concat e (set (.single d))) e).fragment.IsRow
        (sets ++ rest.map CharSet.single) := by
    intro rest
    induction rest with
    | nil =>
      intro e sets known
      rwa [List.map_nil, List.append_nil]
    | cons d rest ih =>
      intro e sets known
      have one : (set (.single d)).fragment.IsRow [.single d] := Fragment.IsRow.char _
      have longer := ih (concat e (set (.single d))) (sets ++ [.single d]) (known.concat one)
      rwa [List.append_assoc] at longer
  unfold literal
  split
  · next empty => exact absurd (String.toList_eq_nil_iff.mp empty) nonempty
  · next c rest chars =>
    rw [chars, List.map_cons]
    exact more rest (set (.single c)) [.single c] (Fragment.IsRow.char _)

namespace Pattern

/-- The position behind one character of each of some sets, if these come next. -/
def pass : List CharSet → Position → Option Position
  | [], position => some position
  | set :: sets, position =>
    match position.rest with
    | [] => none
    | c :: rest => if set.contains c then pass sets (position.advance c rest) else none

theorem follow_nil (states : Array State) (fuel : Nat) (visited : Visited) :
    follow states fuel visited [] = (none, visited) := by
  cases fuel <;> rfl

/-- A row of character sets is passed, or the search from that place comes to nothing. -/
theorem follow_row {states : Array State} {start : Nat} {sets : List CharSet}
    (placed : Placed states start (row start sets)) (fuel : Nat) (visited : Visited)
    (position : Position) (marks : Marks) :
    follow states (fuel + sets.length) visited [⟨start, position, marks⟩] =
      match pass sets position with
      | some behind => follow states fuel visited [⟨start + sets.length, behind, marks⟩]
      | none => (none, visited) := by
  induction sets generalizing start position with
  | nil => rfl
  | cons set sets ih =>
    have here := placed.head
    rw [List.length_cons, ← Nat.add_assoc, follow, pass]
    simp only [here, step]
    cases position.rest with
    | nil => exact follow_nil states _ visited
    | cons c rest =>
      by_cases fits : set.contains c = true
      · have later := ih placed.tail (position.advance c rest)
        rw [Nat.add_assoc, Nat.add_comm 1] at later
        simp only [if_pos fits, later]
      · simp only [if_neg fits]
        exact follow_nil states _ visited

theorem pass_append (front back : List CharSet) (position : Position) :
    pass (front ++ back) position = (pass front position).bind (pass back) := by
  induction front generalizing position with
  | nil => rfl
  | cons set rest ih =>
    rw [List.cons_append, pass, pass]
    cases position.rest with
    | nil => rfl
    | cons c others =>
      by_cases fits : set.contains c = true
      · simp only [if_pos fits, ih]
      · simp only [if_neg fits, Option.bind_none]

theorem index_pass {sets : List CharSet} {position behind : Position}
    (passed : pass sets position = some behind) :
    behind.index = position.index + sets.length := by
  induction sets generalizing position with
  | nil =>
    cases passed
    rfl
  | cons set sets ih =>
    rw [pass] at passed
    split at passed
    · cases passed
    · next c rest _ =>
      obtain ⟨-, passed⟩ := Option.ite_none_right_eq_some.mp passed
      have next_index : (position.advance c rest).index = position.index + 1 := rfl
      rw [ih passed, List.length_cons]
      omega

theorem contains_single {c d : Char} : (CharSet.single c).contains d = true ↔ d = c := by
  rw [CharSet.single, CharSet.contains, Bool.and_eq_true, decide_eq_true_eq, decide_eq_true_eq]
  constructor
  · rintro ⟨above, below⟩
    exact Char.le_antisymm below above
  · rintro rfl
    exact ⟨Char.le_refl d, Char.le_refl d⟩

/-- The characters of a text are passed where the text comes next. -/
theorem pass_literal {lead : List Char} {position behind : Position}
    (passed : pass (lead.map CharSet.single) position = some behind) :
    position.rest = lead ++ behind.rest ∧ behind.index = position.index + lead.length := by
  induction lead generalizing position with
  | nil =>
    cases passed
    exact ⟨rfl, rfl⟩
  | cons c lead ih =>
    rw [List.map_cons, pass] at passed
    split at passed
    · cases passed
    · next d rest next_is =>
      split at passed
      · next fits =>
        obtain ⟨more, index⟩ := ih passed
        rw [contains_single.mp fits] at next_is
        refine ⟨by rw [next_is, List.cons_append, ← more]; rfl, ?_⟩
        have next_index : (position.advance d rest).index = position.index + 1 := rfl
        rw [index, List.length_cons]
        omega
      · cases passed

theorem exists_pass_literal {lead rest : List Char} (position : Position)
    (comes : position.rest = lead ++ rest) :
    ∃ behind, pass (lead.map CharSet.single) position = some behind ∧ behind.rest = rest ∧
      behind.index = position.index + lead.length := by
  induction lead generalizing position with
  | nil => exact ⟨position, rfl, comes, rfl⟩
  | cons c lead ih =>
    obtain ⟨behind, passed, left, index⟩ :=
      ih (position.advance c (lead ++ rest)) rfl
    refine ⟨behind, ?_, left, ?_⟩
    · rw [List.map_cons, pass, comes, List.cons_append]
      simp only [contains_single.mpr rfl, if_true, passed]
    · have next_index : (position.advance c (lead ++ rest)).index = position.index + 1 := rfl
      rw [index, List.length_cons]
      omega

theorem isSome_pass_literal {lead : List Char} {position : Position} :
    (pass (lead.map CharSet.single) position).isSome = true ↔
      ∃ rest, position.rest = lead ++ rest := by
  constructor
  · intro passed
    obtain ⟨behind, passed⟩ := Option.isSome_iff_exists.mp passed
    exact ⟨behind.rest, (pass_literal passed).1⟩
  · rintro ⟨rest, comes⟩
    obtain ⟨behind, passed, -⟩ := exists_pass_literal position comes
    rw [passed]
    rfl

/-- The ends of a text, each with the number of the characters before it, in order: the first of
them at which an attempt succeeds. -/
def firstOf (attempt : Nat → List Char → Option Marks) : Nat → List Char → Option Marks
  | index, [] => attempt index []
  | index, c :: rest => (attempt index (c :: rest)).or (firstOf attempt (index + 1) rest)

/-- A search for a pattern that leaves no trace where it fails. -/
theorem searchFrom_eq {pattern : Pattern} {fuel bound : Nat}
    {attempt : Nat → List Char → Option Marks}
    (fails : ∀ index before rest, rest.length ≤ bound → attempt index rest = none →
      follow pattern.states fuel ∅ [⟨0, ⟨index, before, rest⟩, [(0, index)]⟩] = (none, ∅))
    (goes : ∀ index before rest marks, rest.length ≤ bound → attempt index rest = some marks →
      (follow pattern.states fuel ∅ [⟨0, ⟨index, before, rest⟩, [(0, index)]⟩]).1 = some marks)
    (index : Nat) (before : Option Char) {rest : List Char} (short : rest.length ≤ bound) :
    pattern.searchFrom fuel ∅ index before rest = firstOf attempt index rest := by
  induction rest generalizing index before with
  | nil =>
    rw [searchFrom, firstOf]
    cases here : attempt index [] with
    | none => rw [fails index before [] short here]
    | some marks =>
      have found := goes index before [] marks short here
      split
      · next known => rw [known] at found; exact found
      · next known => rw [known] at found; cases found
  | cons c rest ih =>
    rw [searchFrom, firstOf]
    cases here : attempt index (c :: rest) with
    | none =>
      rw [fails index before (c :: rest) short here, Option.none_or]
      exact ih (index + 1) (some c) (Nat.le_of_succ_le short)
    | some marks =>
      have found := goes index before (c :: rest) marks short here
      rw [Option.some_or]
      split
      · next known => rw [known] at found; exact found
      · next known => rw [known] at found; cases found

theorem firstOf_eq_some {attempt : Nat → List Char → Option Marks} {index : Nat}
    {rest : List Char} {marks : Marks} :
    firstOf attempt index rest = some marks ↔
      ∃ front back, rest = front ++ back ∧ attempt (index + front.length) back = some marks ∧
        ∀ other more, rest = other ++ more →
          (attempt (index + other.length) more).isSome = true → front.length ≤ other.length := by
  induction rest generalizing index with
  | nil =>
    rw [firstOf]
    constructor
    · intro found
      exact ⟨[], [], rfl, found, fun _ _ _ _ => Nat.zero_le _⟩
    · rintro ⟨front, back, split, found, -⟩
      obtain ⟨rfl, rfl⟩ := List.append_eq_nil_iff.mp split.symm
      exact found
  | cons c rest ih =>
    rw [firstOf]
    cases here : attempt index (c :: rest) with
    | some first =>
      rw [Option.some_or]
      constructor
      · rintro ⟨⟩
        exact ⟨[], c :: rest, rfl, here, fun _ _ _ _ => Nat.zero_le _⟩
      · rintro ⟨front, back, split, found, least⟩
        have none_before := least [] (c :: rest) rfl
          (by rw [List.length_nil, Nat.add_zero, here]; rfl)
        rw [List.length_nil, Nat.le_zero, List.length_eq_zero_iff] at none_before
        subst none_before
        rw [List.nil_append] at split
        rw [← split, List.length_nil, Nat.add_zero, here] at found
        exact found
    | none =>
      rw [Option.none_or, ih]
      constructor
      · rintro ⟨front, back, rfl, found, least⟩
        refine ⟨c :: front, back, rfl, ?_, fun other more split success => ?_⟩
        · rwa [List.length_cons, Nat.add_comm front.length, ← Nat.add_assoc]
        · cases other with
          | nil =>
            rw [List.nil_append] at split
            rw [← split, List.length_nil, Nat.add_zero, here] at success
            cases success
          | cons d other =>
            obtain ⟨-, later⟩ := List.cons.inj split
            rw [List.length_cons, Nat.add_comm other.length, ← Nat.add_assoc] at success
            exact Nat.succ_le_succ (least other more later success)
      · rintro ⟨front, back, split, found, least⟩
        cases front with
        | nil =>
          rw [List.nil_append] at split
          rw [← split, List.length_nil, Nat.add_zero, here] at found
          cases found
        | cons d front =>
          obtain ⟨rfl, rfl⟩ := List.cons.inj split
          rw [List.length_cons, Nat.add_comm front.length, ← Nat.add_assoc] at found
          refine ⟨front, back, rfl, found, fun other more split success => ?_⟩
          have later := least (c :: other) more (by rw [split]; rfl)
            (by rwa [List.length_cons, Nat.add_comm other.length, ← Nat.add_assoc])
          exact Nat.le_of_succ_le_succ later

theorem isSome_firstOf {attempt : Nat → List Char → Option Marks} {index : Nat}
    {rest : List Char} :
    (firstOf attempt index rest).isSome = true ↔
      ∃ front back, rest = front ++ back ∧ (attempt (index + front.length) back).isSome = true := by
  induction rest generalizing index with
  | nil =>
    rw [firstOf]
    constructor
    · intro found
      exact ⟨[], [], rfl, found⟩
    · rintro ⟨front, back, split, found⟩
      obtain ⟨rfl, rfl⟩ := List.append_eq_nil_iff.mp split.symm
      exact found
  | cons c rest ih =>
    rw [firstOf, Option.isSome_or, Bool.or_eq_true, ih]
    constructor
    · rintro (here | ⟨front, back, rfl, later⟩)
      · exact ⟨[], c :: rest, rfl, here⟩
      · refine ⟨c :: front, back, rfl, ?_⟩
        rwa [List.length_cons, Nat.add_comm front.length, ← Nat.add_assoc]
    · rintro ⟨front, back, split, found⟩
      cases front with
      | nil =>
        rw [List.nil_append] at split
        exact .inl (split ▸ found)
      | cons d front =>
        obtain ⟨rfl, rfl⟩ := List.cons.inj split
        rw [List.length_cons, Nat.add_comm front.length, ← Nat.add_assoc] at found
        exact .inr ⟨front, back, rfl, found⟩

/-- The states of a greedy loop over a set of characters, with the marks of a group around it. -/
def loop (start : Nat) (set : CharSet) : List State :=
  [.mark 2 (start + 1), .char set (start + 2), .choice (start + 1) (start + 3), .mark 3 (start + 4),
    .accept]

/-- Behind a first character of its set, a greedy loop takes the longest run of further ones. -/
theorem follow_repeat {states : Array State} {start : Nat} {set : CharSet}
    (placed : Placed states start (loop start set)) (fuel : Nat) (visited : Visited)
    (position : Position) (marks : Marks) (others : List Thread)
    (fresh : ∀ index, position.index ≤ index → visited.contains (start + 2, index) = false) :
    (follow states (fuel + (2 * (position.rest.takeWhile set.contains).length + 4)) visited
      (⟨start + 2, position, marks⟩ :: others)).1 =
      some ((1, position.index + (position.rest.takeWhile set.contains).length) ::
        (3, position.index + (position.rest.takeWhile set.contains).length) :: marks) := by
  have reads := placed.tail.head
  have chooses := placed.tail.tail.head
  have ends := placed.tail.tail.tail.head
  have accepts := placed.tail.tail.tail.tail.head
  simp only [Nat.add_assoc, Nat.reduceAdd] at reads chooses ends accepts
  obtain ⟨index, before, rest⟩ := position
  -- Each round visits the choice at its own index only, so the later ones are still fresh.
  induction rest generalizing index before visited others with
  | nil =>
    have unseen := fresh index (Nat.le_refl _)
    rw [List.takeWhile_nil, List.length_nil, Nat.mul_zero, Nat.zero_add, Nat.add_zero]
    simp [follow, chooses, unseen, reads, ends, accepts, step]
  | cons c rest ih =>
    have unseen := fresh index (Nat.le_refl _)
    by_cases fits : set.contains c = true
    · rw [List.takeWhile_cons_of_pos fits, List.length_cons]
      have later := ih (visited.insert (start + 2, index))
        (⟨start + 3, ⟨index, before, c :: rest⟩, marks⟩ :: others) (index + 1) (some c)
        (fun other (bound : index + 1 ≤ other) => by
          have differs : ((start + 2, index) == (start + 2, other)) = false := by
            simp
            omega
          rw [Std.HashSet.contains_insert, differs, Bool.false_or]
          exact fresh other (Nat.le_of_succ_le bound))
      have budget : fuel + (2 * ((rest.takeWhile set.contains).length + 1) + 4) =
          fuel + (2 * (rest.takeWhile set.contains).length + 4) + 1 + 1 := by omega
      have position : index + ((rest.takeWhile set.contains).length + 1) =
          index + 1 + (rest.takeWhile set.contains).length := by omega
      rw [budget, position, ← later, follow]
      simp only [chooses, unseen, Bool.false_eq_true, if_false]
      rw [follow]
      simp only [reads, step, fits, if_true, Position.advance]
    · rw [List.takeWhile_cons_of_neg fits, List.length_nil, Nat.mul_zero, Nat.zero_add,
        Nat.add_zero]
      simp [follow, chooses, unseen, reads, ends, accepts, step, fits]

/-- A greedy loop comes to nothing where there is no character of its set, and otherwise takes the
longest run of them. -/
theorem follow_loop {states : Array State} {start : Nat} {set : CharSet}
    (placed : Placed states start (loop start set)) (fuel : Nat) (position : Position)
    (marks : Marks) :
    let run := position.rest.takeWhile set.contains
    let whole := follow states (fuel + (2 * run.length + 4)) ∅ [⟨start, position, marks⟩]
    (run = [] → whole = (none, ∅)) ∧
      (run ≠ [] → whole.1 = some ((1, position.index + run.length) ::
        (3, position.index + run.length) :: (2, position.index) :: marks)) := by
  have enters := placed.head
  have reads := placed.tail.head
  obtain ⟨index, before, rest⟩ := position
  cases rest with
  | nil =>
    refine ⟨fun _ => ?_, fun some_run => absurd rfl some_run⟩
    simp [follow, enters, reads, step]
  | cons c rest =>
    by_cases fits : set.contains c = true
    · dsimp only
      rw [List.takeWhile_cons_of_pos fits]
      refine ⟨fun blank => absurd blank (List.cons_ne_nil _ _), fun _ => ?_⟩
      have later := follow_repeat placed fuel ∅ ⟨index + 1, some c, rest⟩
        ((2, index) :: marks) [] (fun _ _ => Std.HashSet.contains_empty)
      have budget : fuel + (2 * (c :: rest.takeWhile set.contains).length + 4) =
          fuel + (2 * (rest.takeWhile set.contains).length + 4) + 1 + 1 := by
        rw [List.length_cons]
        omega
      rw [budget, List.length_cons, Nat.add_comm (rest.takeWhile set.contains).length,
        ← Nat.add_assoc index, ← later]
      simp only [follow, enters, reads, step, fits, if_true, Position.advance]
    · dsimp only
      rw [List.takeWhile_cons_of_neg fits]
      refine ⟨fun _ => ?_, fun some_run => absurd rfl some_run⟩
      simp [follow, enters, reads, step, fits]

/-- The fuel of a search is enough for one pass over the automaton and two steps for each
character. -/
theorem le_fuelFor (pattern : Pattern) (length : Nat) :
    pattern.states.size + 2 * length + 2 ≤ pattern.fuelFor length := by
  have squares : pattern.states.size + 1 ≤ (pattern.states.size + 1) * (pattern.states.size + 1) :=
    Nat.le_mul_self _
  have rounds := Nat.mul_le_mul_right (length + 1) (Nat.mul_le_mul_left 2 squares)
  have spread : 2 * (pattern.states.size + 1) * (length + 1) =
      2 * (pattern.states.size * length) + 2 * pattern.states.size + 2 * length + 2 := by
    simp only [Nat.mul_add, Nat.add_mul, Nat.mul_assoc]
    omega
  rw [fuelFor, Nat.mul_assoc 2]
  omega

end Pattern

end Transclude
