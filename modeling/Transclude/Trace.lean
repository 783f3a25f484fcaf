import Transclude.Run

/-!
How the log of a run is shown: each note as an event with a message and named fields.
-/

namespace Transclude

/-- An event: the names of the stages it happened in, a message and the named texts of its
fields. -/
structure Event where
  spans : List String
  message : String
  fields : List (String × String)
  deriving DecidableEq, Repr, Inhabited

def showSkip : Option Nat → String
  | none => "None"
  | some skip => "Some(" ++ toString skip ++ ")"

/-- The message and fields of a note; opening a file is no event, and neither is an overflow. -/
def Note.show? : Note → Option (String × List (String × String))
  | opened _ | overflow => none
  | settingsFile path => some ("loading config", [("path", path.text)])
  | processing => some ("process file", [])
  | rawParameter value =>
    some ("parameter is not an expression, using the raw text", [("value", value)])
  | fileBlock file target skip =>
    some ("found mapfile directive",
      [("file", file), ("target", target.text), ("skip", showSkip skip)])
  | regionBlock file target name skip =>
    some ("found maprange directive",
      [("file", file), ("target", target.text), ("name", name), ("skip", showSkip skip)])
  | region name => some ("found range directive", [("name", name)])
  | indentStep step => some ("detected indentation step", [("step", toString step)])

/-- An event on one line. -/
def Event.text (event : Event) : String :=
  String.intercalate ":" event.spans ++ ": " ++ event.message ++
    String.join (event.fields.map fun (name, value) => " " ++ name ++ "=" ++ value) ++ "\n"

def Run.events {α : Type} (run : Run α) : List Event :=
  run.log.filterMap fun entry =>
    entry.note.show?.map fun (message, fields) =>
      ⟨entry.spans.map Span.name, message, fields⟩

end Transclude
