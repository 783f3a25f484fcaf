import Transclude.Block

/-!
Named regions of a document: what stands between a start marker with the name and the next end
marker. Markers of other regions are ordinary text. One pass over the nodes keeps those that stand
in a region of the name.
-/

namespace Transclude

/-- Keeps the regions of one name. -/
structure RegionFilter where
  name : String
  markers : Markers
  deriving DecidableEq, Repr, Inhabited

/-- Where a pass over the regions of a document stands. -/
inductive RegionScan where
  | outside
  /-- In a region whose start marker has the given position, counted from one. -/
  | inside (line : Nat)
  deriving DecidableEq, Repr, Inhabited

namespace RegionFilter

def named (name : String) : RegionFilter := ⟨name, .standard .range⟩

/-- Takes one more node, which stands at the given position. Inside a region only an end marker
counts; outside, every start marker has to be decoded, but only one with the name opens a region. -/
def step (filter : RegionFilter) (line : Nat) :
    RegionScan → String → Run (List String × RegionScan)
  | .inside opened, node =>
    if filter.markers.isStop node then return ([], .outside)
    else return ([node], .inside opened)
  | .outside, node =>
    match filter.markers.parameter? node with
    | none => return ([], .outside)
    | some parameter => do
      let name ← decodeParameter .range Parameter.decodeRegionName parameter
      Run.note (.region name)
      return ([], if name = filter.name then .inside line else .outside)

def scan (filter : RegionFilter) (document : Path) :
    Nat → RegionScan → List String → Run (List String)
  | _, .outside, [] => return []
  | _, .inside line, [] => Run.fail (.unterminated .range document line)
  | line, state, node :: rest => do
    let (kept, state) ← filter.step line state node
    let others ← filter.scan document (line + 1) state rest
    return kept ++ others

def extract (filter : RegionFilter) (document : Path) (nodes : List String) :
    Run (List String) :=
  filter.scan document 1 .outside nodes

end RegionFilter

end Transclude
