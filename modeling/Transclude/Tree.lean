import Transclude.FileSet

/-!
Trees of files, directories and symbolic links, and where a path leads in one. A tree holds each
place once and under proper names, so a place and its relative path determine each other.
-/

namespace Transclude

/-- The names that lead from the root of a tree to a place in it. -/
abbrev Place := List String

namespace Place

/-- A name can stand in a directory if it is a path of one step. -/
def isName (name : String) : Bool :=
  name != "" && name != "." && name != ".." && !name.toList.contains '/'

/-- The root is always there and has no entry of its own. -/
def isProper (place : Place) : Bool := !place.isEmpty && place.all isName

end Place

inductive Node where
  | directory
  | file (content : List UInt8) (mode : Nat)
  | link (target : Path)
  deriving DecidableEq, Repr, Inhabited

namespace Node

def withContent (content : List UInt8) : Node → Node
  | file _ mode => file content mode
  | node => node

def withMode (mode : Nat) : Node → Node
  | file content _ => file content mode
  | node => node

end Node

@[ext]
structure Tree where
  nodes : List (Place × Node)
  unique : (nodes.map Prod.fst).Nodup := by simp
  proper : ∀ entry ∈ nodes, entry.1.isProper = true := by simp

namespace Tree

def empty : Tree where
  nodes := []

instance : EmptyCollection Tree := ⟨empty⟩

instance : Inhabited Tree := ⟨empty⟩

def get? (tree : Tree) (place : Place) : Option Node :=
  if place = [] then some .directory
  else (tree.nodes.find? fun entry => entry.1 == place).map Prod.snd

def erase (tree : Tree) (place : Place) : Tree where
  nodes := tree.nodes.filter fun entry => entry.1 != place
  unique := tree.unique.sublist (List.filter_sublist.map Prod.fst)
  proper := fun entry held => tree.proper entry (List.mem_filter.1 held).1

/-- Puts a node at a place, which has to be a proper one, and takes away what stood there. -/
def insert (tree : Tree) (place : Place) (node : Node) : Tree :=
  if proper : place.isProper = true then
    { nodes := (place, node) :: (tree.erase place).nodes
      unique := by
        refine List.nodup_cons.2 ⟨?_, (tree.erase place).unique⟩
        simp [erase]
      proper := by
        intro entry held
        rcases List.mem_cons.1 held with rfl | held
        · exact proper
        · exact (tree.erase place).proper entry held }
  else tree

def modify (tree : Tree) (place : Place) (change : Node → Node) : Tree where
  nodes := tree.nodes.map fun entry =>
    (entry.1, if entry.1 = place then change entry.2 else entry.2)
  unique := by simpa [Function.comp_def] using tree.unique
  proper := by
    intro entry held
    obtain ⟨before, member, rfl⟩ := List.mem_map.1 held
    exact tree.proper before member

/-- Gives a file other content; its mode stays, and so does every other place. -/
def write (tree : Tree) (place : Place) (content : List UInt8) : Tree :=
  tree.modify place (Node.withContent content)

/-- Moves what stands at one place over what stands at another. -/
def moveOver (tree : Tree) (source target : Place) : Tree :=
  match tree.get? source with
  | none => tree
  | some node => (tree.erase source).modify target fun _ => node

/-! Replacing a file. -/

def temporaryName (number : Nat) : String := ".tmp" ++ String.ofList (List.replicate number 'x')

/-- A place in a directory at which nothing stands. Of the numbers up to that of all nodes, there is
always one whose name is free. -/
def spare (tree : Tree) (directory : Place) : Place :=
  let free := (List.range tree.nodes.length).find? fun number =>
    (tree.get? (directory ++ [temporaryName number])).isNone
  directory ++ [temporaryName (free.getD tree.nodes.length)]

/-- The mode of a file that nobody else is to read yet. -/
def privateMode : Nat := 384

/-- Replaces a file without its ever being there in part: the content goes to a new file beside it,
which takes over the mode and then the place of the old one. -/
def replace (tree : Tree) (place : Place) (content : List UInt8) : Tree :=
  match tree.get? place with
  | some (.file _ mode) =>
    let temporary := tree.spare place.dropLast
    (((tree.insert temporary (.file [] privateMode)).write temporary content).modify temporary
      (Node.withMode mode)).moveOver temporary place
  | _ => tree

/-! Where a path leads. -/

def maxNameSize : Nat := 255

/-- A path has to have fewer bytes than this. -/
def pathSizeLimit : Nat := 4096

def maxLinks : Nat := 40

/-- The place from which a path starts. -/
def start (directory : Place) (path : Path) : Place :=
  if path.isAbsolute then [] else directory

/-- What stands between the slashes of a path. -/
def way (path : Path) : List String :=
  (Path.pieces '/' path.text.toList).map String.ofList

/-- How far a way leads without a link: to its end, or to a link in a directory, behind which the
rest of the way lies. -/
inductive Reach where
  | place (place : Place)
  | link (directory : Place) (target : Path) (rest : List String)
  deriving DecidableEq, Repr

/-- Walks along a way up to the next link. Each step has to start in a directory. -/
def advance (tree : Tree) (place : Place) : List String → Except IoError Reach
  | [] => .ok (.place place)
  | name :: rest =>
    if tree.get? place ≠ some .directory then .error .notDirectory
    else if name = "" ∨ name = "." then tree.advance place rest
    else if name = ".." then tree.advance place.dropLast rest
    else if maxNameSize < name.utf8ByteSize then .error .nameTooLong
    else
      match tree.get? (place ++ [name]) with
      | none => .error .notFound
      | some (.link target) => .ok (.link place target rest)
      | some _ => tree.advance (place ++ [name]) rest

/-- Walks along a way through at most so many links. -/
def follow (tree : Tree) (links : Nat) (place : Place) (names : List String) :
    Except IoError Place :=
  match tree.advance place names with
  | .error error => .error error
  | .ok (.place found) => .ok found
  | .ok (.link directory target rest) =>
    match links with
    | 0 => .error .tooManyLinks
    | links + 1 => tree.follow links (start directory target) (way target ++ rest)

/-- The place to which a path leads from a directory, through all links. -/
def locate (tree : Tree) (directory : Place) (path : Path) : Except IoError Place :=
  if path.text.toList.contains '\x00' then .error .nulByte
  else if path.text.isEmpty then .error .notFound
  else if pathSizeLimit ≤ path.text.utf8ByteSize then .error .nameTooLong
  else tree.follow maxLinks (start directory path) (way path)

end Tree

/-- A tree as it is seen from one of its directories. -/
structure Workspace where
  tree : Tree
  directory : Place

namespace Workspace

def path (workspace : Workspace) : Path := ⟨"/" ++ String.intercalate "/" workspace.directory⟩

def locate (workspace : Workspace) (path : Path) : Except IoError Place :=
  workspace.tree.locate workspace.directory path

def isFile (workspace : Workspace) (path : Path) : Bool :=
  match workspace.locate path with
  | .error _ => false
  | .ok place =>
    match workspace.tree.get? place with
    | some (.file _ _) => true
    | _ => false

/-- Opens what a path leads to; a directory can be opened but not read. -/
def opener (workspace : Workspace) : Opener := fun path => do
  match workspace.tree.get? (← workspace.locate path) with
  | some (.file content _) => return { bytes := content }
  | _ => return { bytes := [], failure := some .isDirectory }

/-- Replaces the file to which a path leads by one with another text. -/
def write (workspace : Workspace) (path : Path) (text : String) : Workspace :=
  match workspace.locate path with
  | .error _ => workspace
  | .ok place => { workspace with tree := workspace.tree.replace place text.toUTF8.data.toList }

end Workspace

end Transclude
