import Transclude.Command.Outcome
import Transclude.Diff.Lines

/-!
What a command writes: its output, and what it reports besides it. Colors are escape sequences around
the text they are for.
-/

namespace Transclude

namespace Command

inductive Style where
  | plain
  | bold
  | dimmed
  | red
  | green
  | yellow
  | boldRed
  deriving DecidableEq, Repr, Inhabited

/-- The parameters of the escape sequence that starts a style. -/
def Style.parameters? : Style → Option String
  | plain => none
  | bold => some "1"
  | dimmed => some "2"
  | red => some "31"
  | green => some "32"
  | yellow => some "33"
  | boldRed => some "31;1"

def paint (color : Bool) (style : Style) (text : String) : String :=
  match color, style.parameters? with
  | true, some parameters => "\x1b[" ++ parameters ++ "m" ++ text ++ "\x1b[0m"
  | _, _ => text

/-- A line of a diff. A last line without its end gets one of its own and another behind it. -/
def showChange (color : Bool) (change : Diff.Change) : String :=
  let (sign, style) : String × Style :=
    match change.kind with
    | .keep => (" ", .plain)
    | .delete => ("-", .red)
    | .insert => ("+", .green)
  let stop := if Diff.isEnded change.line then "" else "\n"
  paint color style ("  " ++ sign ++ change.line ++ stop) ++ stop

def Document.diff (color : Bool) (document : Document) : String :=
  paint color .dimmed ("--- " ++ document.path.text) ++ "\n" ++
    paint color .dimmed "+++ rendered" ++ "\n" ++
    String.join ((Diff.changes document.current document.output).map (showChange color))

def checkText (color : Bool) (documents : List Document) : String :=
  match documents.filter Document.isStale with
  | [] =>
    paint color .green
      ("All " ++ toString documents.length ++ " file(s) are up to date.") ++ "\n"
  | stale =>
    String.join (stale.map fun document =>
      paint color .yellow "stale:" ++ " " ++ document.path.text ++ "\n") ++
    "\n" ++ toString stale.length ++
    " file(s) out of date. Run with `--replace` to update them.\n"

def replaceText (color : Bool) (documents : List Document) : String :=
  match (documents.filter Document.isStale).length with
  | 0 => "All files are already up to date.\n"
  | updated => paint color .bold "Updated" ++ " " ++ toString updated ++ " file(s).\n"

/-- What is said about a failure: its code, its message, and what can be done about it. -/
def failureText (failure : Failure) : String :=
  failure.code ++ "\n\n  " ++ failure.message ++ "\n" ++
    (match failure.help? with
    | some help => "  help: " ++ help ++ "\n"
    | none => "")

/-- What is said about an error that has no code. -/
def errorText (color : Bool) (message : String) : String :=
  paint color .boldRed "error:" ++ " " ++ message ++ "\n"

def Abort.text (color : Bool) : Abort → String
  | failure cause => failureText cause
  | obstacle cause => errorText color cause.message
  | noFiles => errorText color "no files specified. Pass file paths or `--glob <PATTERN>`."

def versionText : String := "mapdoc_cli 0.1.0\n"

def helpText : String := String.intercalate "\n" [
  "Embed files and named regions into documents, and keep them in sync.",
  "",
  "Usage: mapdoc [OPTIONS] [FILES]...",
  "",
  "Arguments:",
  "  [FILES]...  Documents to process",
  "",
  "Options:",
  "  -g, --glob <GLOB>            Also process every file matching this glob, e.g. `docs/**/*.md`",
  "  -c, --config <CONFIG>        Path to the config file",
  "  -r, --replace                Update each document in place instead of printing it",
  "      --check                  Exit with status 1 if any document is out of date",
  "      --diff                   With `--check`, show a diff for each out-of-date document",
  "      --print-config           Print the resolved configuration as TOML and exit",
  "      --log-level <LOG_LEVEL>  Log level [possible values: trace, debug, info, warn, error]",
  "      --no-color               Disable colored output",
  "  -h, --help                   Print help",
  "  -V, --version                Print version",
  ""]

def usageText (color : Bool) (fault : UsageFault) : String :=
  errorText color fault.message ++
    "\nUsage: mapdoc [OPTIONS] [FILES]...\n\nFor more information, try '--help'.\n"

def Outcome.output (color : Bool) : Outcome → String
  | aborted _ => ""
  | settings held => held.write
  | printed documents => String.join (documents.map Document.output)
  | checked documents _ => checkText color documents
  | replaced documents => replaceText color documents

/-- What a command reports besides its output. -/
def Outcome.diagnostics (color : Bool) : Outcome → String
  | aborted cause => cause.text color
  | checked documents true =>
    String.join ((documents.filter Document.isStale).map (Document.diff color))
  | _ => ""

end Command

end Transclude
