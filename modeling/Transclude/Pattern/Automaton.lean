import Transclude.Pattern.Expr

/-!
The automaton of a regular expression: a list of states that refer to one another by number. Every
loop passes through a choice.
-/

namespace Transclude

inductive State where
  | accept
  | char (set : CharSet) (next : Nat)
  | look (look : Look) (next : Nat)
  /-- Remembers the place in a slot. -/
  | mark (slot next : Nat)
  | jump (next : Nat)
  /-- Goes on at `first`, and at `second` when that leads nowhere. -/
  | choice (first second : Nat)
  deriving DecidableEq, Repr, Inhabited

/-- States to be placed at some number, the first of them to be entered, with a way on to a state
outside. -/
structure Fragment where
  size : Nat
  /-- The states for the number of the first one and that of the state outside. -/
  states : Nat → Nat → List State

namespace Fragment

def empty : Fragment := ⟨1, fun _ next => [.jump next]⟩

def char (set : CharSet) : Fragment := ⟨1, fun _ next => [.char set next]⟩

def look (condition : Look) : Fragment := ⟨1, fun _ next => [.look condition next]⟩

def concat (a b : Fragment) : Fragment where
  size := a.size + b.size
  states start next := a.states start (start + a.size) ++ b.states (start + a.size) next

/-- Remembers where the fragment is entered and left. -/
def group (index : Nat) (a : Fragment) : Fragment where
  size := a.size + 2
  states start next :=
    .mark (2 * index) (start + 1) :: a.states (start + 1) (start + 1 + a.size) ++
      [.mark (2 * index + 1) next]

def either (a b : Fragment) : Fragment where
  size := 1 + a.size + b.size
  states start next :=
    .choice (start + 1) (start + 1 + a.size) :: a.states (start + 1) next ++
      b.states (start + 1 + a.size) next

/-- A choice that prefers the round over the way on when it is greedy. -/
def prefer (greedy : Bool) (round next : Nat) : State :=
  if greedy then .choice round next else .choice next round

def optional (greedy : Bool) (a : Fragment) : Fragment where
  size := 1 + a.size
  states start next := prefer greedy (start + 1) next :: a.states (start + 1) next

/-- One round or more, with the choice behind the round. -/
def oneOrMore (greedy : Bool) (a : Fragment) : Fragment where
  size := a.size + 1
  states start next := a.states start (start + a.size) ++ [prefer greedy start next]

/-- Any number of rounds that each take at least one character. -/
def zeroOrMore (greedy : Bool) (a : Fragment) : Fragment where
  size := 1 + a.size
  states start next := prefer greedy (start + 1) next :: a.states (start + 1) start

/-- A fragment in front of which a number of copies of another are put. -/
def copies (a : Fragment) : Nat → Fragment → Fragment
  | 0, last => last
  | n + 1, last => a.concat (copies a n last)

/-- Up to `n + 1` rounds, each of them inside the one before. -/
def nested (greedy : Bool) (a : Fragment) : Nat → Fragment
  | 0 => a.optional greedy
  | n + 1 => (a.concat (nested greedy a n)).optional greedy

/-- Rounds between two bounds. A body that can match the empty text repeats behind a first round. -/
def repeated (low : Nat) (high : Option Nat) (greedy nullable : Bool) (a : Fragment) : Fragment :=
  match low, high with
  | 0, none => if nullable then (a.oneOrMore greedy).optional greedy else a.zeroOrMore greedy
  | n + 1, none => a.copies n (a.oneOrMore greedy)
  | n, some m =>
    match n, m - n with
    | 0, 0 => empty
    | n + 1, 0 => a.copies n a
    | n, extra + 1 => a.copies n (a.nested greedy extra)

end Fragment

def Expr.fragment : Expr → Fragment
  | .empty => .empty
  | .set s => .char s
  | .look condition => .look condition
  | .group index body => body.fragment.group index
  | .concat a b => a.fragment.concat b.fragment
  | .either a b => a.fragment.either b.fragment
  | .repeated low high greedy body =>
    body.fragment.repeated low high greedy (body.minLength == 0)

/-- The states of an expression from number zero on, with acceptance as the last. -/
def Expr.automaton (e : Expr) : Array State :=
  (e.fragment.states 0 e.fragment.size ++ [State.accept]).toArray

end Transclude
