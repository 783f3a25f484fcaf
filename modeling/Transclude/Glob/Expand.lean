import Transclude.Glob.Reader
import Transclude.Tree

/-!
The files that a pattern names. The steps of the pattern before the first one with a special
character lead to a directory; what follows them is a glob for the files below it.
-/

namespace Transclude

/-- The places of the files below a directory, as they are seen from there. -/
def Tree.filesBelow (tree : Tree) (directory : Place) : List Place :=
  tree.nodes.filterMap fun (place, node) =>
    match node with
    | .file _ _ =>
      if directory.isPrefixOf place then some (place.drop directory.length) else none
    | _ => none

namespace Glob

def isSpecial (c : Char) : Bool := c = '*' || c = '?' || c = '[' || c = '\x7b'

/-- The directory that a pattern starts from, and the steps of its glob. -/
def split (pattern : Path) : Path × List Step :=
  let (plain, special) := (pattern.steps.filter (· != .current)).span fun step =>
    !step.text.toList.any isSpecial
  (.ofSteps plain, special)

def join (steps : List Step) : String := String.intercalate "/" (steps.map Step.text)

inductive Obstacle where
  | unreadable (glob : String) (fault : Fault)
  | unreachable (directory : Path) (error : IoError)
  deriving DecidableEq, Repr, Inhabited

def Obstacle.message : Obstacle → String
  | unreadable glob fault => "error parsing glob '" ++ glob ++ "': " ++ fault.message
  | unreachable directory error =>
    directory.text ++ ": IO error for operation on " ++ directory.text ++ ": " ++ error.message

/-- A directory of this name stands for the standard input, below which there are no files. -/
def standardInput : Path := ⟨"-"⟩

/-- How a directory is written on its own. -/
def entry (directory : Path) : Path := if directory.text.isEmpty then ⟨"."⟩ else directory

/-- The files that can be found from a directory, as they are seen from there. A file in the place
of the directory is seen as the empty path. Links are followed on the way to the directory only. -/
def candidates (workspace : Workspace) (directory : Path) : Except Obstacle (List Path) :=
  if directory = standardInput then .ok []
  else
    match workspace.locate (entry directory) with
    | .error error => .error (.unreachable (entry directory) error)
    | .ok place =>
      .ok ((workspace.tree.filesBelow place).map fun seen =>
        ⟨String.intercalate "/" seen⟩)

/-- The files that a pattern names, in their order as paths. -/
def expand (workspace : Workspace) (pattern : Path) : Except Obstacle (List Path) := do
  let (directory, steps) := split pattern
  if steps.isEmpty then
    return if workspace.isFile directory then [directory] else []
  let text := join steps
  let glob ← (ofText text).mapError (.unreadable text)
  let found ← candidates workspace directory
  return ((found.filter fun path => glob.isMatch path.text).map directory.join).mergeSort Path.le

end Glob

end Transclude
