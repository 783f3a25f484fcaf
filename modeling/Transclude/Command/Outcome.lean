import Transclude.Command.Options
import Transclude.Glob.Expand
import Transclude.Pipeline
import Transclude.Settings.Discovery

/-!
What a command does. It loads its settings, collects its targets and renders all of them before it
shows, checks or replaces any; so a failure leaves every document as it was.
-/

namespace Transclude

namespace Command

/-- Why a command ends without a result. -/
inductive Abort where
  | failure (failure : Failure)
  | obstacle (obstacle : Glob.Obstacle)
  | noFiles
  deriving DecidableEq, Repr, Inhabited

/-- A target with its text as it stands and as it should be. -/
structure Document where
  path : Path
  current : String
  output : String
  deriving DecidableEq, Repr, Inhabited

def Document.isStale (document : Document) : Bool := document.current != document.output

theorem Document.isStale_iff {document : Document} :
    document.isStale = true ↔ document.output ≠ document.current := by
  rw [isStale, bne_iff_ne, ne_comm]

inductive Outcome where
  | aborted (cause : Abort)
  | settings (settings : Settings)
  | printed (documents : List Document)
  | checked (documents : List Document) (showDiff : Bool)
  | replaced (documents : List Document)
  deriving DecidableEq, Repr, Inhabited

/-- The settings that are named, or those of the directory. -/
def loadSettings (workspace : Workspace) (options : Options) :
    Except Failure (Option Settings) :=
  match options.config with
  | some path => (Settings.ofFile workspace.opener path).outcome.map some
  | none => (Settings.load workspace workspace.path).outcome

def rulesOf : Option Settings → Except Failure (List Rule)
  | some settings => settings.rules
  | none => .ok Rule.defaults

/-- The files that are named, and behind them those that match the glob, each path once. -/
def targets (workspace : Workspace) (options : Options) : Except Glob.Obstacle (List Path) := do
  let found ←
    match options.glob with
    | some pattern => Glob.expand workspace pattern
    | none => pure []
  return (options.files ++ found).eraseDupsBy Path.same

def render (workspace : Workspace) (rules : List Rule) (path : Path) : Run Document := do
  let current ← readWhole workspace.opener path
  let output ← processText workspace.opener rules path current
  return { path, current, output }

/-- Renders targets in order, up to the first failure. -/
def renderAll (workspace : Workspace) (rules : List Rule) (paths : List Path) :
    Except Failure (List Document) :=
  paths.mapM fun path => (render workspace rules path).outcome

/-- The rules and the targets of a command. -/
def prepare (workspace : Workspace) (options : Options) (settings : Option Settings) :
    Except Abort (List Rule × List Path) := do
  let rules ← (rulesOf settings).mapError .failure
  let paths ← (targets workspace options).mapError .obstacle
  if paths.isEmpty then throw .noFiles
  return (rules, paths)

def documents (workspace : Workspace) (options : Options) (settings : Option Settings) :
    Except Abort (List Document) := do
  let (rules, paths) ← prepare workspace options settings
  (renderAll workspace rules paths).mapError .failure

/-- The runs that render the targets of a command, as far as it gets to them. -/
def renders (workspace : Workspace) (options : Options) : List (Run Document) :=
  match (loadSettings workspace options).mapError .failure >>= prepare workspace options with
  | .ok (rules, paths) => paths.map (render workspace rules)
  | .error _ => []

/-- The paths at which a command looks for settings. -/
def settingsPaths (workspace : Workspace) (options : Options) : List Path :=
  match options.config with
  | some path => [path]
  | none => Settings.fileNames.map workspace.path.join

/-- The paths on whose files the outcome of a command depends. -/
def consulted (workspace : Workspace) (options : Options) : List Path :=
  settingsPaths workspace options ++ (renders workspace options).flatMap Run.opened

def deliver (options : Options) (documents : List Document) : Outcome :=
  if options.check then .checked documents options.diff
  else if options.replace then .replaced documents
  else .printed documents

def run (workspace : Workspace) (options : Options) : Outcome :=
  match loadSettings workspace options with
  | .error failure => .aborted (.failure failure)
  | .ok settings =>
    if options.printConfig then .settings (settings.getD {})
    else
      match documents workspace options settings with
      | .error cause => .aborted cause
      | .ok documents => deliver options documents

/-- Writes the documents that are out of date. -/
def writeAll (workspace : Workspace) (documents : List Document) : Workspace :=
  (documents.filter Document.isStale).foldl
    (fun workspace document => workspace.write document.path document.output) workspace

/-- The files after a command. -/
def Outcome.applyTo (outcome : Outcome) (workspace : Workspace) : Workspace :=
  match outcome with
  | .replaced documents => writeAll workspace documents
  | _ => workspace

/-- The exit status of a command. -/
def Outcome.code : Outcome → Nat
  | .aborted _ => 2
  | .checked documents _ => if documents.any Document.isStale then 1 else 0
  | _ => 0

end Command

end Transclude
