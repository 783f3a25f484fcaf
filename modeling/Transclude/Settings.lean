import Transclude.Pattern.Reader
import Transclude.Rule
import Transclude.Text.Escaped
import Transclude.Toml.Reader
import Transclude.Toml.Writer

/-!
Settings: the patterns, widths and budgets of the two embedding rules, as they are read from TOML,
checked, turned into rules and written again.
-/

namespace Transclude

/-- The settings of the rule that embeds files. -/
structure FileSection where
  startPattern : String := "mapfile:(\\S+)"
  endPattern : String := "mapfile.end"
  disableReindent : Bool := false
  indentWidth : Nat := Indent.defaultWidth
  defaultSkip : Nat := 0
  deriving DecidableEq, Repr, Inhabited

/-- The settings of the rule that embeds regions. -/
structure RegionSection where
  startPattern : String := "maprange:(\\S+)"
  endPattern : String := "maprange.end"
  disableDedent : Bool := false
  disableReindent : Bool := false
  indentWidth : Nat := Indent.defaultWidth
  defaultSkip : Nat := 0
  deriving DecidableEq, Repr, Inhabited

structure Settings where
  mapfile : FileSection := {}
  maprange : RegionSection := {}
  deriving DecidableEq, Repr, Inhabited

/-- The outcome of reading a field; a fault has a text unless a number is beyond all bounds. -/
abbrev Checked (α : Type) := Except (Option String) α

namespace Toml.Value

/-- What a value is, as a message says it. -/
def kind? : Value → Option String
  | text held => some ("string " ++ Escaped.quote held)
  | integer n =>
    let shown := "integer `" ++ toString n ++ "`"
    if -Int.pow 2 63 ≤ n ∧ n < Int.pow 2 64 then some shown
    else if -Int.pow 2 127 ≤ n ∧ n < Int.pow 2 127 then some (shown ++ " as i128")
    else if 0 ≤ n ∧ n < Int.pow 2 128 then some (shown ++ " as u128")
    else none
  | number held => held.shown?.map fun shown => "floating point `" ++ shown ++ "`"
  | boolean value => some ("boolean `" ++ Writer.boolean value ++ "`")
  | array _ => some "sequence"
  | table _ => some "map"

def mismatch {α : Type} (value : Value) (expected : String) : Checked α :=
  .error (value.kind?.map fun kind => "invalid type: " ++ kind ++ ", expected " ++ expected)

def asText : Value → Checked String
  | text held => .ok held
  | value => value.mismatch "a string"

def asBoolean : Value → Checked Bool
  | boolean value => .ok value
  | value => value.mismatch "a boolean"

/-- A count below two to the power of 64. -/
def asCount : Value → Checked Nat
  | integer n =>
    if 0 ≤ n ∧ n < Int.pow 2 64 then .ok n.toNat
    else if -Int.pow 2 63 ≤ n ∧ n < 0 then
      .error (some ("invalid value: integer `" ++ toString n ++ "`, expected usize"))
    else (integer n).mismatch "usize"
  | value => value.mismatch "usize"

end Toml.Value

/-- What can be read from a table: the names of the fields in their order, and what a value does to
the field of a name. -/
structure Schema (α : Type) where
  name : String
  fields : List String
  set : α → String → Toml.Value → Checked α

namespace Schema

variable {α : Type}

/-- The names of the fields, as a message lists them. -/
def expected (schema : Schema α) : String :=
  match schema.fields.map fun field => "`" ++ field ++ "`" with
  | [a, b] => a ++ " or " ++ b
  | all => "one of " ++ String.intercalate ", " all

/-- Reads one field, which has to be one of the schema. -/
def field (schema : Schema α) (held : α) (key : String) (value : Toml.Value) : Checked α :=
  if key ∈ schema.fields then schema.set held key value
  else .error (some ("unknown field `" ++ key ++ "`, expected " ++ schema.expected))

def fieldsFrom (schema : Schema α) (held : α) : List (String × Toml.Value) → Checked α
  | [] => .ok held
  | (key, value) :: rest => do schema.fieldsFrom (← schema.field held key value) rest

/-- Reads the fields of a table in the order of their names. -/
def ofTable (schema : Schema α) (held : α) (fields : List (String × Toml.Value)) : Checked α :=
  schema.fieldsFrom held (fields.mergeSort fun a b => decide (a.1 ≤ b.1))

/-- Reads a table, or an array of the fields in their order. -/
def ofValue (schema : Schema α) (held : α) : Toml.Value → Checked α
  | .table fields => schema.ofTable held fields
  | .array items => schema.fieldsFrom held (schema.fields.zip items)
  | value => value.mismatch ("struct " ++ schema.name)

end Schema

namespace FileSection

def schema : Schema FileSection where
  name := "MapfileSection"
  fields := ["start_pattern", "end_pattern", "disable_reindent", "indent_width", "default_skip"]
  set held key value :=
    match key with
    | "start_pattern" => return { held with startPattern := ← value.asText }
    | "end_pattern" => return { held with endPattern := ← value.asText }
    | "disable_reindent" => return { held with disableReindent := ← value.asBoolean }
    | "indent_width" => return { held with indentWidth := ← value.asCount }
    | "default_skip" => return { held with defaultSkip := ← value.asCount }
    | _ => return held

def write (held : FileSection) : String :=
  "[mapfile]\n" ++
    Toml.Writer.line "start_pattern" (Toml.Writer.string held.startPattern) ++
    Toml.Writer.line "end_pattern" (Toml.Writer.string held.endPattern) ++
    Toml.Writer.line "disable_reindent" (Toml.Writer.boolean held.disableReindent) ++
    Toml.Writer.line "indent_width" (toString held.indentWidth) ++
    Toml.Writer.line "default_skip" (toString held.defaultSkip)

/-- What is done with the text of an embedded file. -/
def inner (held : FileSection) : List Rule :=
  if held.disableReindent then [] else [.reindent held.indentWidth]

end FileSection

namespace RegionSection

def schema : Schema RegionSection where
  name := "MaprangeSection"
  fields := ["start_pattern", "end_pattern", "disable_dedent", "disable_reindent", "indent_width",
    "default_skip"]
  set held key value :=
    match key with
    | "start_pattern" => return { held with startPattern := ← value.asText }
    | "end_pattern" => return { held with endPattern := ← value.asText }
    | "disable_dedent" => return { held with disableDedent := ← value.asBoolean }
    | "disable_reindent" => return { held with disableReindent := ← value.asBoolean }
    | "indent_width" => return { held with indentWidth := ← value.asCount }
    | "default_skip" => return { held with defaultSkip := ← value.asCount }
    | _ => return held

def write (held : RegionSection) : String :=
  "[maprange]\n" ++
    Toml.Writer.line "start_pattern" (Toml.Writer.string held.startPattern) ++
    Toml.Writer.line "end_pattern" (Toml.Writer.string held.endPattern) ++
    Toml.Writer.line "disable_dedent" (Toml.Writer.boolean held.disableDedent) ++
    Toml.Writer.line "disable_reindent" (Toml.Writer.boolean held.disableReindent) ++
    Toml.Writer.line "indent_width" (toString held.indentWidth) ++
    Toml.Writer.line "default_skip" (toString held.defaultSkip)

def inner (held : RegionSection) : List Rule :=
  (if held.disableDedent then [] else [.dedent Indent.leadingBlanks]) ++
    (if held.disableReindent then [] else [.reindent held.indentWidth])

end RegionSection

namespace Settings

def schema : Schema Settings where
  name := "MapdocConfig"
  fields := ["mapfile", "maprange"]
  set held key value :=
    match key with
    | "mapfile" => return { held with mapfile := ← FileSection.schema.ofValue {} value }
    | "maprange" => return { held with maprange := ← RegionSection.schema.ofValue {} value }
    | _ => return held

def pattern (field text : String) : Except Failure Pattern :=
  match Pattern.read? text with
  | some pattern => .ok pattern
  | none => .error (.pattern field .unreadable)

/-- The pattern of a start marker, which has exactly one group. -/
def startPattern (field text : String) : Except Failure Pattern := do
  let pattern ← pattern field text
  if pattern.groupCount = 1 then return pattern
  else .error (.pattern field (.groupCount pattern.groupCount))

/-- The markers of both rules, of which the first fault is reported. -/
def markers (settings : Settings) : Except Failure (Markers × Markers) := do
  let fileStart ← startPattern "mapfile.start_pattern" settings.mapfile.startPattern
  let fileStop ← pattern "mapfile.end_pattern" settings.mapfile.endPattern
  let regionStart ← startPattern "maprange.start_pattern" settings.maprange.startPattern
  let regionStop ← pattern "maprange.end_pattern" settings.maprange.endPattern
  return (⟨fileStart, fileStop⟩, ⟨regionStart, regionStop⟩)

def rules (settings : Settings) : Except Failure (List Rule) := do
  let (fileMarkers, regionMarkers) ← settings.markers
  return [
    .mapfile fileMarkers settings.mapfile.defaultSkip settings.mapfile.inner,
    .maprange regionMarkers settings.maprange.defaultSkip settings.maprange.inner]

/-- Settings with patterns that can be used. -/
def validate (settings : Settings) : Except Failure Settings := do
  let _ ← settings.markers
  return settings

def read (text : String) : Except Failure Settings :=
  match Toml.Reader.document? text with
  | none => .error (.settings none)
  | some fields =>
    match schema.ofTable {} fields with
    | .error detail => .error (.settings detail)
    | .ok settings => settings.validate

def write (settings : Settings) : String :=
  settings.mapfile.write ++ "\n" ++ settings.maprange.write

/-- The names under which settings are looked for in a directory, the first found being used. -/
def fileNames : List Path := ["mapdoc.toml", ".mapdoc.toml", ".config/mapdoc.toml"]

end Settings

end Transclude
