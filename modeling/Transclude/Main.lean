import Transclude.Command.Report
import Transclude.Trace

/-!
The program. It takes up into a tree the files that its command consults, runs the command on that
tree, and writes the files that differ afterwards. Which files are consulted shows as others are
taken up: settings name patterns, and documents name files to embed.
-/

namespace Transclude

namespace Program

/-- The names in the path of a place. -/
def placeOf (text : String) : Place := (Tree.way text).filter fun name => !name.isEmpty

def textOf (place : Place) : String := "/" ++ String.intercalate "/" place

/-- The place to which the path of another leads through all links. -/
def realPlace? (place : Place) : IO (Option Place) := do
  try
    return some (placeOf (← IO.FS.realPath (textOf place)).toString)
  catch _ =>
    return none

def addDirectory (tree : Tree) (place : Place) : Tree :=
  if (tree.get? place).isNone then tree.insert place .directory else tree

/-- Takes up a directory and those that lead to it. -/
def addDirectories (tree : Tree) (place : Place) : Tree :=
  (List.range (place.length + 1)).foldl (fun tree size => addDirectory tree (place.take size)) tree

/-- Files are written in place and keep the mode that they have. -/
def fileMode : Nat := 420

def takeUp (tree : Tree) (place : Place) : IO Tree := do
  if ← (← IO.FS.realPath (textOf place)).isDir then return addDirectories tree place
  let content ← IO.FS.readBinFile (textOf place)
  return (addDirectories tree place.dropLast).insert place (.file content.data.toList fileMode)

def takeUpWay (tree : Tree) (place : Place) : List String → IO Tree
  | [] => return tree
  | name :: rest => do
    if name = "" ∨ name = "." then takeUpWay tree place rest
    else if name = ".." then takeUpWay tree place.dropLast rest
    else
      let here := place ++ [name]
      match ← realPlace? here with
      | none => return tree
      | some found =>
        let tree :=
          if found = here then tree
          else (addDirectories tree place).insert here (.link (textOf found))
        takeUpWay (← takeUp tree found) found rest

def takeUpPath (workspace : Workspace) (path : Path) : IO Workspace := do
  let directory := Tree.start workspace.directory path
  return { workspace with tree := ← takeUpWay workspace.tree directory (Tree.way path) }

/-- Takes up the names of all that is below a directory, without following links. -/
partial def survey (tree : Tree) (place : Place) : IO Tree := do
  let mut tree := tree
  for entry in ← (← IO.FS.realPath (textOf place)).readDir do
    let here := place ++ [entry.fileName]
    match ← realPlace? here with
    | none => pure ()
    | some found =>
      if found != here then tree := tree.insert here (.link (textOf found))
      else if ← entry.path.isDir then tree ← survey (addDirectory tree here) here
      else if (tree.get? here).isNone then tree := tree.insert here (.file [] fileMode)
  return tree

/-- Takes up the names that a glob may match. -/
def surveyGlob (workspace : Workspace) (pattern : Path) : IO Workspace := do
  let (directory, steps) := Glob.split pattern
  let workspace ← takeUpPath workspace directory
  if steps.isEmpty then return workspace
  match workspace.locate (Glob.entry directory) with
  | .error _ => return workspace
  | .ok place =>
    match workspace.tree.get? place with
    | some .directory => return { workspace with tree := ← survey workspace.tree place }
    | _ => return workspace

/-- Takes up files until the command consults no others. -/
partial def complete (workspace : Workspace) (options : Command.Options) (known : List Path) :
    IO Workspace := do
  let wanted := (Command.consulted workspace options).filter fun path => !known.contains path
  if wanted.isEmpty then return workspace
  complete (← wanted.foldlM takeUpPath workspace) options (wanted ++ known)

def writeChanges (before after : Tree) : IO Unit := do
  for (place, node) in after.nodes do
    if before.get? place != some node then
      if let .file content _ := node then
        IO.FS.writeBinFile (textOf place) ⟨content.toArray⟩

def runCommand (options : Command.Options) (color : Bool) : IO UInt32 := do
  let directory := placeOf (← IO.currentDir).toString
  let workspace : Workspace := ⟨addDirectories ∅ directory, directory⟩
  let workspace ←
    match options.glob with
    | some pattern => surveyGlob workspace pattern
    | none => pure workspace
  let workspace ← complete workspace options []
  if options.logLevel.any Command.LogLevel.showsEvents then
    for run in Command.renders workspace options do
      for event in run.events do
        IO.eprint event.text
  let outcome := Command.run workspace options
  writeChanges workspace.tree (outcome.applyTo workspace).tree
  IO.print (outcome.output color)
  IO.eprint (outcome.diagnostics color)
  return UInt32.ofNat outcome.code

end Program

end Transclude

open Transclude in
def main (arguments : List String) : IO UInt32 := do
  let wanted := (← IO.getEnv "NO_COLOR").isNone
  match Command.Options.read arguments with
  | .error .version =>
    IO.print Command.versionText
    return 0
  | .error .help =>
    IO.print Command.helpText
    return 0
  | .error (.usage fault) =>
    IO.eprint (Command.usageText wanted fault)
    return 2
  | .ok options =>
    let color := wanted && !options.noColor
    try
      Program.runCommand options color
    catch error =>
      IO.eprint (Command.errorText color error.toString)
      return 2
