import Transclude.Unicode.Fold
import Transclude.Unicode.Property
import Transclude.Unicode.Script

/-!
Sets of characters, kept as the expressions that denote them.
-/

namespace Transclude

inductive CharSet where
  | empty
  | range (low high : Char)
  | blank
  | categories (categories : List Unicode.Category)
  | script (tag : String)
  | property (property : Unicode.Property)
  | union (a b : CharSet)
  | intersection (a b : CharSet)
  | complement (a : CharSet)
  /-- Every character that is alike up to case to one of the set. -/
  | folded (a : CharSet)
  /-- The same, where only the letters of ASCII have cases. -/
  | foldedAscii (a : CharSet)
  deriving DecidableEq, Repr, Inhabited

namespace CharSet

/-- A letter of ASCII in the other case. -/
def otherCase (c : Char) : Char :=
  if c.isUpper then c.toLower else if c.isLower then c.toUpper else c

def contains : CharSet → Char → Bool
  | empty, _ => false
  | range low high, c => decide (low ≤ c) && decide (c ≤ high)
  | blank, c => Unicode.isBlank c
  | categories list, c => decide (Unicode.Category.of c ∈ list)
  | script tag, c => Unicode.Script.of c == tag
  | property p, c => p.holds c
  | union a b, c => a.contains c || b.contains c
  | intersection a b, c => a.contains c && b.contains c
  | complement a, c => !a.contains c
  | folded a, c => (Unicode.Fold.alike c).any a.contains
  | foldedAscii a, c => a.contains c || a.contains (otherCase c)

def single (c : Char) : CharSet := range c c

def ofRanges (ranges : List (Char × Char)) : CharSet :=
  ranges.foldl (fun set (low, high) => union set (range low high)) empty

def difference (a b : CharSet) : CharSet := intersection a (complement b)

def symmetricDifference (a b : CharSet) : CharSet := union (difference a b) (difference b a)

def all : CharSet := complement empty

def ascii : CharSet := range '\x00' '\x7f'

def digit : CharSet := categories [.nd]

def word : CharSet := property Unicode.wordProperty

def asciiDigit : CharSet := range '0' '9'

def asciiBlank : CharSet := ofRanges [('\t', '\r'), (' ', ' ')]

def asciiWord : CharSet := ofRanges [('0', '9'), ('A', 'Z'), ('_', '_'), ('a', 'z')]

/-- The set with or without its complement taken. -/
def negateIf (negated : Bool) (set : CharSet) : CharSet :=
  if negated then complement set else set

/-- About how many ranges a set takes. -/
def rangeCount : CharSet → Nat
  | empty => 0
  | range _ _ => 1
  | blank => Unicode.blankRanges.length
  | categories list => Unicode.Category.runCount list
  | script tag => Unicode.Script.runCount tag
  | property p => Unicode.Category.runCount p.categories / 2 + p.added.length + p.removed.length
  | union a b => a.rangeCount + b.rangeCount
  | intersection a b => max a.rangeCount b.rangeCount
  | complement a => a.rangeCount + 1
  | folded a | foldedAscii a => 2 * a.rangeCount

end CharSet

end Transclude
