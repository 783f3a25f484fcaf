import Transclude.Diff.Edit

/-!
Shortest edit scripts. A path through the grid of old and new lines goes right to delete a line,
down to insert one, and diagonally over equal lines. Two searches, one from each end, keep the
furthest point on each diagonal for a growing number of edits; where they meet, the problem splits
in two.
-/

namespace Transclude

namespace Diff

def commonStart : List String → List String → Nat
  | a :: as, b :: bs => if a = b then commonStart as bs + 1 else 0
  | _, _ => 0

/-- The number of equal lines from a point of the grid on. -/
def runLength (old new : Array String) (x y : Nat) : Nat :=
  if inside : x < old.size ∧ y < new.size then
    if old[x] = new[y] then runLength old new (x + 1) (y + 1) + 1 else 0
  else 0
termination_by old.size - x

/-- A furthest point: its diagonal `x - y`, the `x` where its last run of equal lines starts, and
the `x` where it ends. -/
structure Reach where
  diagonal : Int
  start : Nat
  stop : Nat
  deriving DecidableEq, Repr, Inhabited

/-- The `x` at which the points with one more edit start: right of the point on the diagonal below,
unless the one on the diagonal above is further. Rows go from the highest diagonal to the lowest. -/
def nextStarts : List Nat → List Nat
  | [] => [0]
  | first :: rest => (first + 1) :: between first rest
where
  between (above : Nat) : List Nat → List Nat
    | [] => [above]
    | below :: rest => (if below < above then above else below + 1) :: between below rest

/-- The furthest points with a number of edits, given the row for one edit less. -/
def reaches (old new : Array String) (edits : Nat) (row : List Nat) : List Reach :=
  (nextStarts row).mapIdx fun i start =>
    let diagonal : Int := edits - 2 * i
    ⟨diagonal, start, start + runLength old new start (start - diagonal).toNat⟩

/-- The furthest `x` on a diagonal in the row for a number of edits. -/
def furthest? (row : List Nat) (edits : Nat) (diagonal : Int) : Option Nat :=
  if diagonal ≤ edits then row[((edits - diagonal) / 2).toNat]? else none

/-- The first point that meets a row of the other search, on texts whose lengths differ by
`shift`. -/
def meeting? (length : Nat) (shift : Int) (points : List Reach) (row : List Nat) (edits : Nat) :
    Option Reach :=
  points.find? fun point =>
    match furthest? row edits (shift - point.diagonal) with
    | some x => length ≤ point.stop + x
    | none => false

/-- Searches from both ends for the point at which a problem splits. The searches meet in the
forward one if the lengths differ by an odd number and in the backward one otherwise. -/
def splitFrom (old new oldBack newBack : Array String) :
    Nat → Nat → List Nat → List Nat → Option (Nat × Nat)
  | 0, _, _, _ => none
  | fuel + 1, edits, ahead, behind =>
    let shift : Int := old.size - new.size
    let forward := reaches old new edits ahead
    let backward := reaches oldBack newBack edits behind
    let ahead := forward.map Reach.stop
    let found :=
      if shift % 2 = 0 then
        (meeting? old.size shift backward ahead edits).map fun point =>
          (old.size - point.stop, new.size - (point.stop - point.diagonal).toNat)
      else
        (meeting? old.size shift forward behind (edits - 1)).map fun point =>
          (point.start, (point.start - point.diagonal).toNat)
    match found with
    | some point => some point
    | none => splitFrom old new oldBack newBack fuel (edits + 1) ahead (backward.map Reach.stop)

/-- The point at which a problem splits; half of all edits reach it from either end. -/
def split? (old new : List String) : Option (Nat × Nat) :=
  splitFrom old.toArray new.toArray old.reverse.toArray new.reverse.toArray
    ((old.length + new.length + 1) / 2 + 1) 0 [] []

def shortest (old new : List String) : Script :=
  let start := commonStart old new
  let olds := old.drop start
  let news := new.drop start
  let stop := commonStart olds.reverse news.reverse
  let oldMiddle := olds.take (olds.length - stop)
  let newMiddle := news.take (news.length - stop)
  let middle :=
    if oldMiddle.isEmpty || newMiddle.isEmpty then Script.replacement oldMiddle newMiddle
    else
      match split? oldMiddle newMiddle with
      | none => Script.replacement oldMiddle newMiddle
      | some (x, y) =>
        if _smaller : 0 < x + y ∧ x + y < oldMiddle.length + newMiddle.length ∧
            x ≤ oldMiddle.length ∧ y ≤ newMiddle.length then
          shortest (oldMiddle.take x) (newMiddle.take y) ++
            shortest (oldMiddle.drop x) (newMiddle.drop y)
        else Script.replacement oldMiddle newMiddle
  Script.one .keep (old.take start) ++ middle ++
    Script.one .keep (olds.drop (olds.length - stop))
termination_by old.length + new.length
decreasing_by
  all_goals
    simp only [oldMiddle, newMiddle, olds, news, List.length_take, List.length_drop] at *
    omega

end Diff

end Transclude
