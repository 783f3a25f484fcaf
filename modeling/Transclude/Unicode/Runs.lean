import Transclude.Text.Digits

/-!
Tables over code points: runs of equal value, found by bisection, and the written forms in which
the tables of this folder are kept.
-/

namespace Transclude.Unicode

/-- Values over the code points: each entry holds from its start up to the start of the next. -/
structure Runs (α : Type) where
  entries : Array (Nat × α)

namespace Runs

variable {α : Type}

/-- How many entries of the half-open interval, and of those before it, start at or before a code
point, when all below `low` do and none from `high` on does. -/
def bisect (runs : Runs α) (code low high : Nat) : Nat :=
  if low < high then
    let middle := (low + high) / 2
    match runs.entries[middle]? with
    | some (start, _) =>
      if start ≤ code then bisect runs code (middle + 1) high else bisect runs code low middle
    | none => low
  else low
termination_by high - low

def find? (runs : Runs α) (code : Nat) : Option α :=
  match runs.bisect code 0 runs.entries.size with
  | 0 => none
  | count + 1 => (runs.entries[count]?).map Prod.snd

/-- Reads lines of entries separated by blanks, each of them a tag of fixed width and a hexadecimal
start. -/
def read (width : Nat) (value : String → α) (table : List String) : Runs α where
  entries := ((table.flatMap (·.splitOn " ")).filterMap fun entry =>
    let cs := entry.toList
    (Digits.number? 16 (cs.drop width)).map fun start =>
      (start, value (String.ofList (cs.take width)))).toArray

end Runs

/-- Reads lines of ranges separated by blanks, written as one or two hexadecimal numbers. -/
def readRanges (table : List String) : List (Nat × Nat) :=
  (table.flatMap (·.splitOn " ")).filterMap fun entry =>
    match (entry.splitOn "-").map fun bound => Digits.number? 16 bound.toList with
    | [some code] => some (code, code)
    | [some low, some high] => some (low, high)
    | _ => none

end Transclude.Unicode
