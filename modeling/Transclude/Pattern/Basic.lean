import Std.Data.HashSet
import Transclude.Pattern.Automaton

/-!
Patterns and the search for their first match. The leftmost match wins, and of those that start at
one place the one that the preferences of the expression reach first. A choice that has been taken
up at some place in the text leads nowhere when it comes up there again: either it is being tried,
so that nothing was read since, or it was tried before in vain.
-/

namespace Transclude

structure Pattern where
  expr : Expr
  states : Array State
  deriving DecidableEq, Repr, Inhabited

structure Position where
  index : Nat
  before : Option Char
  rest : List Char
  deriving DecidableEq, Repr, Inhabited

namespace Position

def advance (position : Position) (c : Char) (rest : List Char) : Position :=
  ⟨position.index + 1, some c, rest⟩

end Position

/-- The places that a match remembers, the last remembered first. -/
abbrev Marks := List (Nat × Nat)

/-- A way through the automaton that is still to be followed. -/
structure Thread where
  state : Nat
  position : Position
  marks : Marks

/-- The choices that have been taken up, with the places at which they were. -/
abbrev Visited := Std.HashSet (Nat × Nat)

namespace Pattern

def ofExpr (expr : Expr) : Pattern := ⟨expr, expr.automaton⟩

def groupCount (pattern : Pattern) : Nat := pattern.expr.lastGroup

/-- Where a thread goes on when it is not at a choice: nowhere, or with one step. -/
def step (state : State) (thread : Thread) : Option Thread :=
  match state, thread.position.rest with
  | .char set next, c :: rest =>
    if set.contains c then some ⟨next, thread.position.advance c rest, thread.marks⟩ else none
  | .look look next, rest =>
    if look.holds thread.position.before rest.head? then some { thread with state := next } else none
  | .mark slot next, _ =>
    some { thread with state := next, marks := (slot, thread.position.index) :: thread.marks }
  | .jump next, _ => some { thread with state := next }
  | _, _ => none

/-- Follows threads in their order of preference until one is accepted. -/
def follow (states : Array State) : Nat → Visited → List Thread → Option Marks × Visited
  | 0, visited, _ => (none, visited)
  | _ + 1, visited, [] => (none, visited)
  | fuel + 1, visited, thread :: others =>
    match states[thread.state]? with
    | some .accept => (some ((1, thread.position.index) :: thread.marks), visited)
    | some (.choice first second) =>
      let key := (thread.state, thread.position.index)
      if visited.contains key then follow states fuel visited others
      else
        follow states fuel (visited.insert key)
          ({ thread with state := first } :: { thread with state := second } :: others)
    | some state =>
      match step state thread with
      | some next => follow states fuel visited (next :: others)
      | none => follow states fuel visited others
    | none => follow states fuel visited others

/-- More steps than a search in a text of the given length can take: every choice is taken up once
at every place, and from there each of its two ways meets each state at most once before it comes
to a choice again. -/
def fuelFor (pattern : Pattern) (length : Nat) : Nat :=
  2 * (pattern.states.size + 1) * (pattern.states.size + 1) * (length + 1) + length + 2

/-- Tries one place after the other as the start of a match. -/
def searchFrom (pattern : Pattern) (fuel : Nat) (visited : Visited) (index : Nat)
    (before : Option Char) (rest : List Char) : Option Marks :=
  match follow pattern.states fuel visited [⟨0, ⟨index, before, rest⟩, [(0, index)]⟩] with
  | (some marks, _) => some marks
  | (none, visited) =>
    match rest with
    | [] => none
    | c :: rest => searchFrom pattern fuel visited (index + 1) (some c) rest

/-- The marks of the first match in a text. -/
def search? (pattern : Pattern) (text : List Char) : Option Marks :=
  searchFrom pattern (pattern.fuelFor text.length) ∅ 0 none text

/-- The place that was last remembered in a slot. -/
def slot? (marks : Marks) (slot : Nat) : Option Nat :=
  (marks.find? fun mark => mark.1 == slot).map Prod.snd

/-- The part of a text that a group matched; group zero is the whole match. -/
def part? (text : List Char) (marks : Marks) (group : Nat) : Option String := do
  let start ← slot? marks (2 * group)
  let stop ← slot? marks (2 * group + 1)
  return String.ofList ((text.drop start).take (stop - start))

def isMatch (pattern : Pattern) (text : String) : Bool :=
  (pattern.search? text.toList).isSome

/-- What the first group matches, if the pattern matches and the group takes part. -/
def capture? (pattern : Pattern) (text : String) : Option String :=
  (pattern.search? text.toList).bind fun marks => part? text.toList marks 1

/-- What the first group matches, or the whole match where the group takes no part. -/
def captureOrMatch? (pattern : Pattern) (text : String) : Option String :=
  (pattern.search? text.toList).bind fun marks =>
    (part? text.toList marks 1).orElse fun _ => part? text.toList marks 0

end Pattern

end Transclude
