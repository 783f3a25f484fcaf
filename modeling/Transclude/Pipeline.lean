import Transclude.FileSet
import Transclude.Rule

/-!
The pipeline: a document is read line by line, the rules are applied to it in order, and what comes
out is put together again. Rules that embed run a pipeline of their own on each file they load; how
deep these nest depends on the rules alone, whatever the files hold.
-/

namespace Transclude

def access (opener : Opener) (path : Path) : Run Stream := do
  Run.note (.opened path)
  Run.ofExcept ((opener path).mapError (Failure.ofIo path))

def readWhole (opener : Opener) (path : Path) : Run String := do
  let stream ← access opener path
  Run.ofExcept (stream.text.mapError (Failure.ofIo path))

/-- The lines of a stream that was opened at a path. -/
def parse (path : Path) (stream : Stream) : Run (List String) :=
  Run.within .parse (Run.ofExcept (stream.lines.mapError (Failure.ofIo path)))

/-- Transforms the nodes of the document at a path. -/
abbrev Transform := Path → List String → Run (List String)

/-- Runs a pipeline on the file at a path. -/
def processWith (opener : Opener) (transform : Transform) (path : Path) : Run String :=
  Run.within .processFile do
    Run.note .processing
    let stream ← access opener path
    let nodes ← parse path stream
    return render (← Run.within .applyRules (transform path nodes))

def requestFile (document : Path) (parameter : String) : Run (Path × Option Nat) := do
  let asked ← decodeParameter .mapfile Parameter.FileTarget.decode parameter
  let target := document.resolve asked.file
  Run.note (.fileBlock asked.file target asked.skip)
  return (target, asked.skip)

def requestRegion (document : Path) (parameter : String) : Run ((Path × String) × Option Nat) := do
  let asked ← decodeParameter .maprange Parameter.RegionTarget.decode parameter
  let target := document.resolve asked.file
  Run.note (.regionBlock asked.file target asked.name asked.skip)
  return ((target, asked.name), asked.skip)

def filterRegion (filter : RegionFilter) : Transform := fun document nodes =>
  Run.within (.rule Directive.range.name) (filter.extract document nodes)

/-- The text of a file to embed. Where no rules are to be run on it, it is read as a whole. -/
def loadFile (opener : Opener) (inner : List Rule) (transform : Transform) (target : Path) :
    Run String :=
  if inner.isEmpty then readWhole opener target else processWith opener transform target

/-- The text of a region to embed; the other rules get to see nothing else of the file. -/
def loadRegion (opener : Opener) (transform : Transform) (target : Path × String) : Run String :=
  processWith opener (fun path nodes => do
    let nodes ← filterRegion (.named target.2) path nodes
    transform path nodes) target.1

def rescaleIndent (width : Nat) : Transform := fun _ nodes =>
  let width := Indent.effectiveWidth width
  Run.within (.rule "reindent") do
    let unit := Indent.indentStep width nodes
    if unit != 0 then Run.note (.indentStep unit)
    unless Indent.hasRoom width nodes do Run.note .overflow
    return Indent.reindent width nodes

mutual

def Rule.apply (opener : Opener) : Rule → Transform
  | .mapfile markers defaultSkip inner => fun document nodes =>
    Run.within (.rule Directive.mapfile.name) <|
      Embedding.embed
        { directive := .mapfile, markers, defaultSkip
          request := requestFile document
          load := loadFile opener inner (Rule.applyAll opener inner) }
        document nodes
  | .maprange markers defaultSkip inner => fun document nodes =>
    Run.within (.rule Directive.maprange.name) <|
      Embedding.embed
        { directive := .maprange, markers, defaultSkip
          request := requestRegion document
          load := loadRegion opener (Rule.applyAll opener inner) }
        document nodes
  | .range filter => filterRegion filter
  | .dedent lead => fun _ nodes =>
    Run.within (.rule "dedent") (return Indent.dedent lead nodes)
  | .reindent width => rescaleIndent width

def Rule.applyAll (opener : Opener) : List Rule → Transform
  | [] => fun _ nodes => return nodes
  | rule :: rest => fun document nodes => do
    let nodes ← Rule.apply opener rule document nodes
    Rule.applyAll opener rest document nodes

end

def processFile (opener : Opener) (rules : List Rule) (path : Path) : Run String :=
  processWith opener (Rule.applyAll opener rules) path

/-- Runs rules on a text; embed targets are resolved as those of a document at the path. -/
def processText (opener : Opener) (rules : List Rule) (path : Path) (text : String) :
    Run String :=
  Run.within .processText do
    let nodes ← parse path (.ofText text)
    return render (← Run.within .applyRules (Rule.applyAll opener rules path nodes))

end Transclude
