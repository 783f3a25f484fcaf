import Transclude.Pipeline
import Transclude.Settings
import Transclude.Tree

/-!
Where settings come from: a file that is named, or the first one found in a directory.
-/

namespace Transclude

namespace Settings

def ofFile (opener : Opener) (path : Path) : Run Settings := do
  Run.note (.settingsFile path)
  let text ← readWhole opener path
  Run.ofExcept (read text)

/-- The file of settings in a directory, if there is one. -/
def find? (workspace : Workspace) (directory : Path) : Option Path :=
  (fileNames.map directory.join).find? workspace.isFile

def load (workspace : Workspace) (directory : Path) : Run (Option Settings) :=
  match find? workspace directory with
  | none => return none
  | some path => return some (← ofFile workspace.opener path)

end Settings

end Transclude
