import Transclude.Pattern.Basic
import Transclude.Run

/-!
Blocks: the parts of a document between a start marker and the next end marker. A document is a
list of nodes, which are its lines or texts put among them. One pass over the nodes brings all
blocks up to date: it keeps what stands outside of them and puts the text that each block asks for
in the place of what is stale.
-/

namespace Transclude

def render (nodes : List String) : String := String.join nodes

namespace Pattern

open Transclude.Expr in
/-- The pattern of a word, a colon and a parameter without blanks. -/
def startMarker (word : String) : Pattern :=
  ofExpr (concat (literal (word ++ ":"))
    (group 1 (repeated 1 none true (set (.complement .blank)))))

open Transclude.Expr in
/-- The pattern of a word, any one character and `end`. -/
def endMarker (word : String) : Pattern :=
  ofExpr (concat (concat (concat (concat (literal word) (set (.complement (.single '\n'))))
    (set (.single 'e'))) (set (.single 'n'))) (set (.single 'd')))

end Pattern

/-- The patterns of the two markers of a block. A node starts a block when the first group of the
start pattern takes part in the match. -/
structure Markers where
  start : Pattern
  stop : Pattern
  deriving DecidableEq, Repr, Inhabited

namespace Markers

def standard (directive : Directive) : Markers where
  start := .startMarker directive.name
  stop := .endMarker directive.name

def parameter? (markers : Markers) (node : String) : Option String := markers.start.capture? node

def isStop (markers : Markers) (node : String) : Bool := markers.stop.isMatch node

def body (markers : Markers) (nodes : List String) : List String :=
  nodes.takeWhile fun node => !markers.isStop node

def afterBody (markers : Markers) (nodes : List String) : List String :=
  nodes.dropWhile fun node => !markers.isStop node

end Markers

def endLine (text : String) : String :=
  if text.toList.getLast? == some '\n' then text else text ++ "\n"

/-- What an embedding directive does with its blocks: `request` decodes the parameter of a start
marker to a target and a number of nodes to keep, and `load` gets the text of a target. -/
structure Embedding (Target : Type) where
  directive : Directive
  markers : Markers
  defaultSkip : Nat
  request : String → Run (Target × Option Nat)
  load : Target → Run String

/-- A block whose end marker is still to come. -/
structure OpenBlock (Target : Type) where
  target : Target
  /-- The position of the start marker, counted from one. -/
  line : Nat
  skip : Nat
  /-- How many nodes have been kept behind the start marker. -/
  passed : Nat
  /-- The nodes held back since, the last of them first. -/
  stale : List String

/-- Where a pass over a document stands. -/
inductive Scan (Target : Type) where
  | outside
  | inside (block : OpenBlock Target)

namespace Embedding

variable {Target : Type}

/-- Takes one more node, which stands at the given position. Inside a block only an end marker
counts: it brings in the text of the target and up to `skip` of the nodes held back last. -/
def step (embedding : Embedding Target) (line : Nat) :
    Scan Target → String → Run (List String × Scan Target)
  | .outside, node =>
    match embedding.markers.parameter? node with
    | none => return ([node], .outside)
    | some parameter => do
      let (target, skip) ← embedding.request parameter
      let skip := skip.getD embedding.defaultSkip
      return ([node], .inside { target, line, skip, passed := 0, stale := [] })
  | .inside block, node =>
    if embedding.markers.isStop node then do
      let text ← embedding.load block.target
      return (endLine text :: (block.stale.take block.skip).reverse ++ [node], .outside)
    else if block.passed < block.skip then
      return ([node], .inside { block with passed := block.passed + 1 })
    else
      return ([], .inside { block with stale := node :: block.stale })

def scan (embedding : Embedding Target) (document : Path) :
    Nat → Scan Target → List String → Run (List String)
  | _, .outside, [] => return []
  | _, .inside block, [] => Run.fail (.unterminated embedding.directive document block.line)
  | line, state, node :: rest => do
    let (nodes, state) ← embedding.step line state node
    let others ← embedding.scan document (line + 1) state rest
    return nodes ++ others

/-- Brings all blocks of a document up to date. -/
def embed (embedding : Embedding Target) (document : Path) (nodes : List String) :
    Run (List String) :=
  embedding.scan document 1 .outside nodes

end Embedding

/-- The outcome of decoding a parameter, with a note where the text is taken as it stands. -/
def decodeParameter {α : Type} (directive : Directive)
    (decode : String → Except Parameter.Fault α) (raw : String) : Run α := do
  if Parameter.isRaw raw then Run.note (.rawParameter raw)
  match decode raw with
  | .ok value => return value
  | .error fault => Run.fail (.malformed directive raw fault)

end Transclude
