import Transclude.Pattern.CharSet

/-!
Regular expressions with numbered groups. A repetition prefers more rounds when it is greedy and
fewer otherwise, and an alternative prefers its first branch.
-/

namespace Transclude

/-- Where a word may begin or end; `unicode` says which characters form words. -/
inductive WordEdge where
  | boundary
  | inside
  | start
  | stop
  | startHalf
  | stopHalf
  deriving DecidableEq, Repr, Inhabited

/-- A condition on a place in the text. -/
inductive Look where
  | textStart
  | textEnd
  | lineStart
  | lineEnd
  /-- A line starts behind a pair of carriage return and line feed, or behind either alone. -/
  | lineStartCrlf
  | lineEndCrlf
  | word (edge : WordEdge) (unicode : Bool)
  deriving DecidableEq, Repr, Inhabited

namespace Look

def isWordChar (unicode : Bool) : Option Char → Bool
  | none => false
  | some c => if unicode then CharSet.word.contains c else CharSet.asciiWord.contains c

def holds (look : Look) (before after : Option Char) : Bool :=
  match look with
  | textStart => before.isNone
  | textEnd => after.isNone
  | lineStart => before.isNone || before == some '\n'
  | lineEnd => after.isNone || after == some '\n'
  | lineStartCrlf =>
    before.isNone || before == some '\n' || (before == some '\r' && after != some '\n')
  | lineEndCrlf =>
    after.isNone || after == some '\r' || (after == some '\n' && before != some '\r')
  | word edge unicode =>
    let left := isWordChar unicode before
    let right := isWordChar unicode after
    match edge with
    | .boundary => left != right
    | .inside => left == right
    | .start => !left && right
    | .stop => left && !right
    | .startHalf => !left
    | .stopHalf => !right

end Look

inductive Expr where
  | empty
  | set (set : CharSet)
  | look (look : Look)
  | group (index : Nat) (body : Expr)
  | concat (first second : Expr)
  | either (first second : Expr)
  | repeated (low : Nat) (high : Option Nat) (greedy : Bool) (body : Expr)
  deriving DecidableEq, Repr, Inhabited

namespace Expr

def minLength : Expr → Nat
  | empty | look _ => 0
  | set _ => 1
  | group _ body => body.minLength
  | concat a b => a.minLength + b.minLength
  | either a b => min a.minLength b.minLength
  | repeated low _ _ body => low * body.minLength

/-- Whether only the empty text can match. -/
def isWidthless : Expr → Bool
  | empty | look _ => true
  | set _ => false
  | group _ body => body.isWidthless
  | concat a b | either a b => a.isWidthless && b.isWidthless
  | repeated _ high _ body => high == some 0 || body.isWidthless

/-- A repetition in its simplest form: what has no width is taken at most once, no round at all is
the empty expression, and exactly one round is the body. -/
def repetition (low : Nat) (high : Option Nat) (greedy : Bool) (body : Expr) : Expr :=
  let widthless := body.isWidthless
  let low := if widthless then min low 1 else low
  let high := if widthless then some (min (high.getD 1) 1) else high
  if high = some 0 then empty
  else if low = 1 ∧ high = some 1 then body
  else repeated low high greedy body

/-- The highest number of a group, or zero where there is none. -/
def lastGroup : Expr → Nat
  | empty | set _ | look _ => 0
  | group index body => max index body.lastGroup
  | concat a b | either a b => max a.lastGroup b.lastGroup
  | repeated _ _ _ body => body.lastGroup

def literal (text : String) : Expr :=
  match text.toList with
  | [] => empty
  | c :: rest => rest.foldl (fun e d => concat e (set (.single d))) (set (.single c))

/-- About how many bytes the compiled form of an expression takes. -/
def weight : Expr → Nat
  | empty => 32
  | set s => 32 + 60 * (s.rangeCount - 1)
  | look _ => 32
  | group _ body => 64 + body.weight
  | concat a b => a.weight + b.weight
  | either a b => 40 + a.weight + b.weight
  | repeated low high _ body =>
    match high with
    | none => max low 1 * body.weight + 40
    | some n => low * body.weight + (n - low) * (40 + body.weight)

/-- Expressions beyond this weight are refused. -/
def weightLimit : Nat := 10 * Nat.pow 2 20

end Expr

end Transclude
