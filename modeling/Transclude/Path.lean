/-!
Paths in slash notation: the steps they consist of, their lexical normal form, and the place to
which a target written in a document leads.
-/

namespace Transclude

inductive Step where
  | root
  | current
  | parent
  | name (text : String)
  deriving DecidableEq, Repr, Inhabited

namespace Step

def text : Step → String
  | root => "/"
  | current => "."
  | parent => ".."
  | name text => text

/-- Steps of different kinds are ordered root, current, parent, name. -/
def rank : Step → Nat
  | root => 0
  | current => 1
  | parent => 2
  | name _ => 3

protected def compare : Step → Step → Ordering
  | name a, name b => compare a b
  | a, b => compare a.rank b.rank

instance : Ord Step := ⟨Step.compare⟩

end Step

/-- A path as it was written; two spellings of one path are different values. -/
structure Path where
  text : String
  deriving DecidableEq, Repr, Inhabited

namespace Path

instance : Coe String Path := ⟨Path.mk⟩

/-- The pieces of a text between the occurrences of a separator; there is at least one. -/
def pieces (separator : Char) : List Char → List (List Char)
  | [] => [[]]
  | c :: rest =>
    if c = separator then [] :: pieces separator rest
    else
      match pieces separator rest with
      | [] => [[c]]
      | first :: others => (c :: first) :: others

/-- The step that a piece stands for behind the first slash: empty pieces and `.` stand for none. -/
def innerStep? : List Char → Option Step
  | [] => none
  | ['.'] => none
  | ['.', '.'] => some .parent
  | piece => some (.name (String.ofList piece))

/-- The steps of a path. A `.` is kept only at the start of a relative path. -/
def steps (path : Path) : List Step :=
  match path.text.toList with
  | '/' :: rest => .root :: (pieces '/' rest).filterMap innerStep?
  | written =>
    match pieces '/' written with
    | ['.'] :: others => .current :: others.filterMap innerStep?
    | all => all.filterMap innerStep?

def ofSteps : List Step → Path
  | .root :: rest => ⟨"/" ++ String.intercalate "/" (rest.map Step.text)⟩
  | all => ⟨String.intercalate "/" (all.map Step.text)⟩

/-- Two paths are the same when they have the same steps. -/
def same (a b : Path) : Bool := a.steps == b.steps

/-- Paths are ordered step by step. -/
def le (a b : Path) : Bool := (compareLex a.steps b.steps).isLE
where
  compareLex : List Step → List Step → Ordering
    | [], [] => .eq
    | [], _ :: _ => .lt
    | _ :: _, [] => .gt
    | x :: xs, y :: ys => (compare x y).then (compareLex xs ys)

def isAbsolute (path : Path) : Bool := path.text.toList.head? == some '/'

/-- Takes one more step from the steps walked so far, the last of them first. A `..` undoes a name,
stays at the root, and is kept where nothing is left to undo. -/
def walk (walked : List Step) : Step → List Step
  | .current => walked
  | .parent =>
    match walked with
    | .name _ :: before => before
    | .root :: _ => walked
    | _ => .parent :: walked
  | step => step :: walked

def normalSteps (path : Path) : List Step :=
  (path.steps.foldl walk []).reverse

/-- The lexical normal form: no `.`, and `..` only where it leads out of a relative path. -/
def normalize (path : Path) : Path := ofSteps path.normalSteps

/-- A path written below a directory; an absolute path stands for itself. -/
def join (directory target : Path) : Path :=
  if target.isAbsolute then target
  else if directory.text.isEmpty || directory.text.toList.getLast? == some '/' then
    ⟨directory.text ++ target.text⟩
  else ⟨directory.text ++ "/" ++ target.text⟩

/-- The directory of a path; the empty path and the root have none. -/
def parent? (path : Path) : Option Path :=
  match path.steps with
  | [] => none
  | [.root] => none
  | all => some (ofSteps all.dropLast)

/-- Where a target written in a document leads: below the document's directory, in normal form. -/
def resolve (document target : Path) : Path :=
  ((document.parent?.getD ⟨""⟩).join target).normalize

end Path

end Transclude
