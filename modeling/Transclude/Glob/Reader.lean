import Transclude.Glob.Basic

/-!
Reading globs, character by character. Two stars stand for directories where they fill the place
between slashes; what they stand for depends on what surrounds them, so they wait for the next
character.
-/

namespace Transclude

namespace Glob

inductive Fault where
  | unclosedRanges
  | reversedRange (first last : Char)
  | unopenedGroup
  | unclosedGroup
  | unfinishedEscape
  deriving DecidableEq, Repr, Inhabited

def Fault.message : Fault → String
  | unclosedRanges => "unclosed character class; missing ']'"
  | reversedRange first last =>
    "invalid range; '" ++ String.singleton first ++ "' > '" ++ String.singleton last ++ "'"
  | unopenedGroup => "unopened alternate group; missing '\x7b' (maybe escape '\x7d' with '[\x7d]'?)"
  | unclosedGroup => "unclosed alternate group; missing '\x7d' (maybe escape '\x7b' with '[\x7b]'?)"
  | unfinishedEscape => "dangling '\\'"

/-- The ranges read so far between brackets, the last one first. -/
structure Ranges where
  negated : Bool
  ranges : List (Char × Char)
  /-- Whether the last range waits for its end. -/
  isOpen : Bool
  deriving DecidableEq, Repr, Inhabited

/-- Ends the last range with a character. -/
def Ranges.close (held : Ranges) (c : Char) : Except Fault Ranges :=
  match held.ranges with
  | [] => .ok { held with ranges := [(c, c)], isOpen := false }
  | (first, _) :: others =>
    if c < first then .error (.reversedRange first c)
    else .ok { held with ranges := (first, c) :: others, isOpen := false }

/-- All ranges in order; a dash at the end stands for itself. -/
def Ranges.all (held : Ranges) : List (Char × Char) :=
  ((if held.isOpen then [('-', '-')] else []) ++ held.ranges).reverse

/-- What the next character means. -/
inductive Mode where
  | plain
  | escaped
  /-- Behind a star, before which another character stood. -/
  | star (before : Option Char)
  /-- Behind two stars, before which another character stood. -/
  | stars (before : Option Char)
  | opening
  | negated
  | inRanges (held : Ranges)
  deriving DecidableEq, Repr, Inhabited

/-- A group that is not closed: the parts before it and its finished branches, the last first. -/
structure Group where
  before : List Part
  branches : List (List Part)
  deriving Repr, Inhabited

/-- What has been read: the open groups, the innermost first, and the parts of the branch at hand,
the last first. -/
structure Reader where
  mode : Mode
  last : Option Char
  groups : List Group
  parts : List Part
  deriving Repr, Inhabited

namespace Reader

def start : Reader := ⟨.plain, none, [], []⟩

def add (reader : Reader) (part : Part) : Reader :=
  { reader with mode := .plain, parts := part :: reader.parts }

/-- Reads two stars as two parts that stay within a name. -/
def addMany (reader : Reader) : Reader := (reader.add .many).add .many

/-- Two stars behind other parts reach across directories together with the slash before them. -/
def addAcross (reader : Reader) (part : Part) : Reader :=
  match reader.parts with
  | .leading :: _ => { reader with mode := .plain }
  | .trailing :: _ => { reader with mode := .plain }
  | _ :: before => { reader with mode := .plain, parts := part :: before }
  | [] => reader.add part

/-- Whether two stars follow the start of a name. -/
def afterBreak (reader : Reader) (before : Option Char) : Bool :=
  before == some '/' ||
    (!reader.groups.isEmpty && (before == some ',' || before == some '\x7b'))

/-- Settles what two stars stand for, given what is before and behind them; the second result is
whether this takes up the next character. -/
def settle (reader : Reader) (before next : Option Char) : Reader × Bool :=
  if reader.parts.isEmpty then
    if next == none || next == some '/' then (reader.add .leading, true)
    else (reader.addMany, false)
  else if !reader.afterBreak before then (reader.addMany, false)
  else if next == some '/' then (reader.addAcross .inner, true)
  else if next == none then (reader.addAcross .trailing, true)
  else if !reader.groups.isEmpty && (next == some ',' || next == some '\x7d') then
    (reader.addAcross .trailing, false)
  else (reader.addMany, false)

/-- Ends a branch, and the group with it, where there is one. -/
def closeGroup (reader : Reader) : Except Fault Reader :=
  match reader.groups with
  | [] => .error .unopenedGroup
  | group :: outer =>
    let branches := (reader.parts.reverse :: group.branches).reverse
    .ok { reader with mode := .plain, groups := outer, parts := .either branches :: group.before }

/-- A comma ends a branch within a group and is a character elsewhere. -/
def nextBranch (reader : Reader) : Reader :=
  match reader.groups with
  | [] => reader.add (.literal ',')
  | group :: outer =>
    { reader with
      mode := .plain
      groups := { group with branches := reader.parts.reverse :: group.branches } :: outer
      parts := [] }

/-- Reads a character to which nothing before it gives a meaning. -/
def readPlain (reader : Reader) (c : Char) : Except Fault Reader :=
  match c with
  | '?' => .ok (reader.add .one)
  | '*' => .ok { reader with mode := .star reader.last }
  | '[' => .ok { reader with mode := .opening }
  | '\x7b' => .ok { reader with groups := ⟨reader.parts, []⟩ :: reader.groups, parts := [] }
  | '\x7d' => reader.closeGroup
  | ',' => .ok reader.nextBranch
  | '\\' => .ok { reader with mode := .escaped }
  | _ => .ok (reader.add (.literal c))

def readRange (reader : Reader) (held : Ranges) (c : Char) : Except Fault Reader := do
  if c = ']' then return reader.add (.oneOf held.negated held.all)
  let held ←
    if held.isOpen then Ranges.close held c
    else if c = '-' then pure { held with isOpen := true }
    else pure { held with ranges := (c, c) :: held.ranges }
  return { reader with mode := .inRanges held }

/-- Reads the first character between brackets, which always stands for itself. -/
def firstRange (reader : Reader) (negated : Bool) (c : Char) : Reader :=
  { reader with mode := .inRanges ⟨negated, [(c, c)], false⟩ }

/-- Reads a character in the mode at hand. -/
def readIn (reader : Reader) (c : Char) : Except Fault Reader :=
  match reader.mode with
  | .plain => reader.readPlain c
  | .escaped => .ok (reader.add (.literal c))
  | .star before =>
    if c = '*' then .ok { reader with mode := .stars before }
    else (reader.add .many).readPlain c
  | .stars before =>
    match reader.settle before (some c) with
    | (reader, true) => .ok reader
    | (reader, false) => reader.readPlain c
  | .opening =>
    if c = '!' || c = '^' then .ok { reader with mode := .negated }
    else .ok (reader.firstRange false c)
  | .negated => .ok (reader.firstRange true c)
  | .inRanges held => reader.readRange held c

def read (reader : Reader) (c : Char) : Except Fault Reader :=
  (reader.readIn c).map fun reader => { reader with last := some c }

def finish (reader : Reader) : Except Fault (List Part) := do
  let reader ←
    match reader.mode with
    | .plain => pure reader
    | .escaped => .error .unfinishedEscape
    | .star _ => pure (reader.add .many)
    | .stars before => pure (reader.settle before none).1
    | _ => .error .unclosedRanges
  if reader.groups.isEmpty then return reader.parts.reverse
  else .error .unclosedGroup

end Reader

def ofText (text : String) : Except Fault Glob := do
  let reader ← text.toList.foldlM Reader.read Reader.start
  return ⟨← reader.finish⟩

end Glob

end Transclude
