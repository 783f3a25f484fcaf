import Transclude.Pattern.Basic
import Transclude.Pattern.Bracket

/-!
Reads written patterns. The reader keeps the groups that are open and, for the innermost of them,
the branches that are complete and the items of the one being read.
-/

namespace Transclude.Pattern

/-- Something read in a branch, with its nesting depth; a change of flags is an item that matches
nothing by itself. -/
structure Item where
  expr : Option Expr
  depth : Nat
  deriving DecidableEq, Repr, Inhabited

/-- What has been read of a group. -/
structure Level where
  branches : List Item := []
  items : List Item := []
  deriving DecidableEq, Repr, Inhabited

/-- An open group: what was read before it, its number if it captures, and the flags outside. -/
structure Group where
  outer : Level
  number : Option Nat
  flags : Flags
  deriving DecidableEq, Repr, Inhabited

structure Reader where
  opened : List Group := []
  level : Level := {}
  flags : Flags := {}
  groups : Nat := 0
  names : List (List Char) := []
  deriving DecidableEq, Repr, Inhabited

namespace Level

/-- The deepest of several items, counted from outside a node that holds them. -/
def depthOf (items : List Item) : Nat :=
  match items with
  | [] => 0
  | [item] => item.depth
  | _ => items.foldl (fun depth item => max depth item.depth) 0 + 1

/-- The items of the branch being read as one. -/
def branch (level : Level) : Item where
  expr :=
    match level.items.reverse.filterMap Item.expr with
    | [] => some .empty
    | first :: rest => some (rest.foldl .concat first)
  depth := depthOf level.items

/-- All branches as one. -/
def whole (level : Level) : Item :=
  let branches := (level.branch :: level.branches).reverse
  { expr :=
      match branches.filterMap Item.expr with
      | [] => some .empty
      | first :: rest => some (orElse first rest)
    depth := depthOf branches }
where
  orElse (first : Expr) : List Expr → Expr
    | [] => first
    | second :: rest => .either first (orElse second rest)

def push (level : Level) (item : Item) : Level := { level with items := item :: level.items }

end Level

namespace Reader

def push (reader : Reader) (expr : Expr) (depth : Nat) : Reader :=
  { reader with level := reader.level.push ⟨some expr, depth⟩ }

def repeatLast? (reader : Reader) (low : Nat) (high : Option Nat) (greedy : Bool) :
    Option Reader :=
  match reader.level.items with
  | ⟨some body, depth⟩ :: before =>
    let expr := Expr.repetition low high (greedy != reader.flags.swapGreed) body
    if expr.weight > Expr.weightLimit then none
    else some { reader with level := { reader.level with items := ⟨some expr, depth + 1⟩ :: before } }
  | _ => none

/-- Whether a question mark makes a repetition lazy, and what follows. -/
def laziness : List Char → Bool × List Char
  | '?' :: rest => (true, rest)
  | rest => (false, rest)

/-- A decimal number with blanks around it and, in verbose patterns, inside it. -/
def decimal (verbose : Bool) (input : List Char) : Option Nat × List Char :=
  let (digits, rest) := collect verbose Char.isDigit (input.dropWhile Unicode.isBlank)
  ((Digits.number? 10 digits).filter (· < Nat.pow 2 32), skip verbose (rest.dropWhile Unicode.isBlank))

/-- The bounds of a counted repetition behind its opening brace, and what follows them. -/
def bounds? (verbose : Bool) (input : List Char) : Option ((Nat × Option Nat) × List Char) :=
  match decimal verbose (skip verbose input) with
  | (some low, ',' :: rest) =>
    match skip verbose rest with
    | '\x7d' :: after => some ((low, none), after)
    | rest =>
      match decimal verbose rest with
      | (some high, '\x7d' :: after) => if low ≤ high then some ((low, some high), after) else none
      | _ => none
  | (some count, '\x7d' :: after) => some ((count, some count), after)
  | _ => none

def isNameChar (first : Bool) (c : Char) : Bool :=
  c == '_' || (if first then isLetter c else
    c == '.' || c == '[' || c == ']' || isLetter c ||
      decide (Unicode.Category.of c ∈ [.nd, .nl, .no]))
where
  isLetter (c : Char) : Bool := alphabetic.holds c
  alphabetic : Unicode.Property := (Unicode.Property.ofName? "alphabetic").getD default

/-- The name of a group behind its opening angle, and what follows it. -/
def groupName? (input : List Char) : Option (List Char × List Char) :=
  match input.dropWhile (· != '>') with
  | [] => none
  | _ :: after =>
    match input.takeWhile (· != '>') with
    | [] => none
    | c :: rest =>
      if isNameChar true c && rest.all (isNameChar false) then some (c :: rest, after) else none

/-- Opens a group that captures, with a name of its own if it has one. -/
def openNumbered (reader : Reader) : Reader :=
  { reader with
    opened := ⟨reader.level, some (reader.groups + 1), reader.flags⟩ :: reader.opened
    level := {}
    groups := reader.groups + 1 }

def openNamed? (reader : Reader) (name : List Char) : Option Reader :=
  if name ∈ reader.names then none
  else some { reader.openNumbered with names := name :: reader.names }

/-- Reads flags up to the mark behind them: each flag stands once, and a minus, also at most once,
is followed by one. -/
def readFlags? (seen : List Char) (on : Bool) (flags : Flags) :
    List Char → Option (Flags × Char × List Char)
  | [] => none
  | c :: rest =>
    if c = ':' || c = ')' then
      if seen.head? == some '-' || (c == ')' && seen.isEmpty) then none else some (flags, c, rest)
    else if c ∈ seen then none
    else if c = '-' then readFlags? (c :: seen) false flags rest
    else
      match flags.switch? on c with
      | some flags => readFlags? (c :: seen) on flags rest
      | none => none

/-- Opens a group, or sets flags for the rest of the one being read. -/
def openGroup? (reader : Reader) (input : List Char) : Option (Reader × List Char) :=
  match skip reader.flags.verbose input with
  | '?' :: 'P' :: '<' :: rest => do
    let (name, after) ← groupName? rest
    return (← reader.openNamed? name, after)
  | '?' :: '<' :: rest => do
    let (name, after) ← groupName? rest
    return (← reader.openNamed? name, after)
  | '?' :: rest => do
    let (flags, mark, after) ← readFlags? [] true reader.flags rest
    if mark = ')' then
      return ({ reader with flags, level := reader.level.push ⟨none, 0⟩ }, after)
    else
      return ({ reader with
        opened := ⟨reader.level, none, reader.flags⟩ :: reader.opened
        level := {}
        flags }, after)
  | rest => some (reader.openNumbered, rest)

def closeGroup? (reader : Reader) : Option Reader :=
  match reader.opened with
  | [] => none
  | group :: outer => do
    let inner := reader.level.whole
    let body ← inner.expr
    let expr := match group.number with
      | some number => .group number body
      | none => body
    return { reader with
      opened := outer
      level := group.outer.push ⟨some expr, inner.depth + 1⟩
      flags := group.flags }

def step? (reader : Reader) (c : Char) (rest : List Char) : Option (Reader × List Char) :=
  match c with
  | '(' => reader.openGroup? rest
  | ')' => reader.closeGroup?.map (·, rest)
  | '|' =>
    some ({ reader with level := ⟨reader.level.branch :: reader.level.branches, []⟩ }, rest)
  | '[' => do
    let (set, depth, after) ← Bracket.read? reader.flags rest
    return (reader.push (.set set) depth, after)
  | '?' => repeatBy 0 (some 1) (laziness rest)
  | '*' => repeatBy 0 none (laziness rest)
  | '+' => repeatBy 1 none (laziness rest)
  | '\x7b' => do
    let ((low, high), after) ← bounds? reader.flags.verbose rest
    repeatBy low high (laziness (skip reader.flags.verbose after))
  | '\\' => do
    let (atom, after) ← escape? reader.flags.verbose rest
    return (reader.push (← atom.expr? reader.flags) 0, after)
  | '.' => (Atom.dot.expr? reader.flags).map fun expr => (reader.push expr 0, rest)
  | '^' => (Atom.lineStart.expr? reader.flags).map fun expr => (reader.push expr 0, rest)
  | '$' => (Atom.lineEnd.expr? reader.flags).map fun expr => (reader.push expr 0, rest)
  | c => some (reader.push (.set (reader.flags.literal c)) 0, rest)
where
  repeatBy (low : Nat) (high : Option Nat) (lazy : Bool × List Char) :
      Option (Reader × List Char) :=
    (reader.repeatLast? low high !lazy.1).map (·, lazy.2)

/-- Reads to the end of a pattern; every step takes at least one character. -/
def readOn? : Nat → Reader → List Char → Option Reader
  | 0, _, _ => none
  | fuel + 1, reader, input =>
    match skip reader.flags.verbose input with
    | [] => some reader
    | c :: rest =>
      match reader.step? c rest with
      | some (reader, rest) => readOn? fuel reader rest
      | none => none

def depthLimit : Nat := 250

def expr? (text : List Char) : Option Expr := do
  let reader ← readOn? (text.length + 1) {} text
  if !reader.opened.isEmpty then none
  let whole := reader.level.whole
  if whole.depth > depthLimit then none
  let expr ← whole.expr
  if expr.weight > Expr.weightLimit then none
  return expr

end Reader

def read? (text : String) : Option Pattern := (Reader.expr? text.toList).map ofExpr

end Transclude.Pattern
