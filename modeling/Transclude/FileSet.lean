import Transclude.Path
import Transclude.Stream

/-!
Files kept in memory. A file is found under every spelling of its path, and a file inserted later
replaces an earlier one at the same place.
-/

namespace Transclude

/-- Opens the file at a path. -/
abbrev Opener := Path → Except IoError Stream

/-- What opening a kept file yields. -/
inductive Entry where
  | readable (content : Stream)
  | denied (error : IoError)
  deriving DecidableEq, Repr, Inhabited

def Entry.content : Entry → Except IoError Stream
  | readable stream => .ok stream
  | denied error => .error error

/-- Entries under the normal forms of their paths, the last inserted first. -/
structure FileSet where
  entries : List (Path × Entry)
  deriving DecidableEq, Repr, Inhabited

namespace FileSet

def empty : FileSet := ⟨[]⟩

instance : EmptyCollection FileSet := ⟨empty⟩

def insert (files : FileSet) (path : Path) (entry : Entry) : FileSet :=
  ⟨(path.normalize, entry) :: files.entries.filter fun kept => kept.1 != path.normalize⟩

/-- The entry at the place to which a path leads. -/
def get? (files : FileSet) (path : Path) : Option Entry :=
  (files.entries.find? fun kept => kept.1 == path.normalize).map Prod.snd

def opener (files : FileSet) : Opener := fun path =>
  match files.get? path with
  | some entry => entry.content
  | none => .error .notFound

end FileSet

end Transclude
