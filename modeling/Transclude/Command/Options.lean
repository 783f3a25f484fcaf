import Transclude.Path

/-!
What a user asks for on the command line. Arguments are read from left to right, and the first one
that cannot be understood, or that asks for the version or the help, decides; combinations of
options are checked at the end.
-/

namespace Transclude

namespace Command

inductive LogLevel where
  | trace
  | debug
  | info
  | warn
  | error
  deriving DecidableEq, Repr, Inhabited

def LogLevel.ofText? : String → Option LogLevel
  | "trace" => some trace
  | "debug" => some debug
  | "info" => some info
  | "warn" => some warn
  | "error" => some error
  | _ => none

def LogLevel.showsEvents : LogLevel → Bool
  | trace => true
  | debug => true
  | _ => false

structure Options where
  files : List Path := []
  glob : Option Path := none
  config : Option Path := none
  replace : Bool := false
  check : Bool := false
  diff : Bool := false
  printConfig : Bool := false
  logLevel : Option LogLevel := none
  noColor : Bool := false
  deriving DecidableEq, Repr, Inhabited

inductive Flag where
  | replace
  | check
  | diff
  | printConfig
  | noColor
  deriving DecidableEq, Repr, Inhabited

inductive Setting where
  | glob
  | config
  | logLevel
  deriving DecidableEq, Repr, Inhabited

inductive Meaning where
  | flag (flag : Flag)
  | setting (setting : Setting)
  | version
  | help
  deriving DecidableEq, Repr, Inhabited

def Flag.name : Flag → String
  | replace => "--replace"
  | check => "--check"
  | diff => "--diff"
  | printConfig => "--print-config"
  | noColor => "--no-color"

def Setting.name : Setting → String
  | glob => "--glob"
  | config => "--config"
  | logLevel => "--log-level"

def Meaning.ofLong? : String → Option Meaning
  | "glob" => some (setting .glob)
  | "config" => some (setting .config)
  | "log-level" => some (setting .logLevel)
  | "replace" => some (flag .replace)
  | "check" => some (flag .check)
  | "diff" => some (flag .diff)
  | "print-config" => some (flag .printConfig)
  | "no-color" => some (flag .noColor)
  | "version" => some version
  | "help" => some help
  | _ => none

def Meaning.ofShort? : Char → Option Meaning
  | 'g' => some (setting .glob)
  | 'c' => some (setting .config)
  | 'r' => some (flag .replace)
  | 'V' => some version
  | 'h' => some help
  | _ => none

inductive UsageFault where
  | unknown (argument : String)
  | missingValue (setting : Setting)
  | unusableValue (name value : String)
  | unexpectedValue (flag : Flag) (value : String)
  | repeated (name : String)
  | conflict (first second : Flag)
  | missing (flag needed : Flag)
  deriving DecidableEq, Repr, Inhabited

def UsageFault.message : UsageFault → String
  | unknown argument => "unexpected argument '" ++ argument ++ "' found"
  | missingValue setting => "a value is required for '" ++ setting.name ++ "' but none was supplied"
  | unusableValue name value => "invalid value '" ++ value ++ "' for '" ++ name ++ "'"
  | unexpectedValue flag value =>
    "unexpected value '" ++ value ++ "' for '" ++ flag.name ++ "' found; no more were expected"
  | repeated name => "the argument '" ++ name ++ "' cannot be used multiple times"
  | conflict first second =>
    "the argument '" ++ first.name ++ "' cannot be used with '" ++ second.name ++ "'"
  | missing flag needed =>
    "the argument '" ++ flag.name ++ "' is only allowed with '" ++ needed.name ++ "'"

/-- Why the reading of arguments ends early. -/
inductive Stop where
  | usage (fault : UsageFault)
  | version
  | help
  deriving DecidableEq, Repr, Inhabited

namespace Options

def has (options : Options) : Flag → Bool
  | .replace => options.replace
  | .check => options.check
  | .diff => options.diff
  | .printConfig => options.printConfig
  | .noColor => options.noColor

/-- Turns on a flag, which may be given once. -/
def turnOn (options : Options) (flag : Flag) : Except Stop Options :=
  if options.has flag then .error (.usage (.repeated flag.name))
  else
    .ok (match flag with
      | .replace => { options with replace := true }
      | .check => { options with check := true }
      | .diff => { options with diff := true }
      | .printConfig => { options with printConfig := true }
      | .noColor => { options with noColor := true })

def once {α : Type} (setting : Setting) (held : Option α) (value : α) : Except Stop (Option α) :=
  match held with
  | some _ => .error (.usage (.repeated setting.name))
  | none => .ok (some value)

/-- Gives a setting its value. A path cannot be empty. -/
def assign (options : Options) (setting : Setting) (value : String) : Except Stop Options :=
  match setting with
  | .glob => do return { options with glob := ← once .glob options.glob ⟨value⟩ }
  | .config =>
    if value.isEmpty then .error (.usage (.unusableValue setting.name value))
    else do return { options with config := ← once .config options.config ⟨value⟩ }
  | .logLevel =>
    match LogLevel.ofText? value with
    | none => .error (.usage (.unusableValue setting.name value))
    | some level => do return { options with logLevel := ← once .logLevel options.logLevel level }

def addFile (options : Options) (file : String) : Except Stop Options :=
  if file.isEmpty then .error (.usage (.unusableValue "[FILES]..." file))
  else .ok { options with files := options.files ++ [⟨file⟩] }

def validate (options : Options) : Except Stop Options :=
  if options.replace && options.check then .error (.usage (.conflict .replace .check))
  else if options.diff && !options.check then .error (.usage (.missing .diff .check))
  else .ok options

end Options

structure Reading where
  options : Options := {}
  /-- The setting for which the next argument is the value. -/
  pending : Option Setting := none
  /-- Whether all that follows are files. -/
  onlyFiles : Bool := false
  deriving DecidableEq, Repr, Inhabited

namespace Reading

def turnOn (reading : Reading) (flag : Flag) : Except Stop Reading := do
  return { reading with options := ← reading.options.turnOn flag }

def assign (reading : Reading) (setting : Setting) (value : String) : Except Stop Reading := do
  return { reading with options := ← reading.options.assign setting value, pending := none }

def addFile (reading : Reading) (file : String) : Except Stop Reading := do
  return { reading with options := ← reading.options.addFile file }

/-- Reads an option with its name in full and its value, if one is attached. -/
def readLong (reading : Reading) (name : String) (value : Option String) :
    Except Stop Reading :=
  match Meaning.ofLong? name, value with
  | none, _ => .error (.usage (.unknown ("--" ++ name)))
  | some (.flag flag), none => reading.turnOn flag
  | some (.flag flag), some value => .error (.usage (.unexpectedValue flag value))
  | some (.setting setting), none => .ok { reading with pending := some setting }
  | some (.setting setting), some value => reading.assign setting value
  | some .version, none => .error .version
  | some .help, none => .error .help
  | some _, some _ => .error (.usage (.unknown ("--" ++ name)))

/-- Reads options of one letter each. What stands behind the letter of a setting is its value, with
or without a sign of equality before it. -/
def readShort (reading : Reading) : List Char → Except Stop Reading
  | [] => .ok reading
  | letter :: rest =>
    match Meaning.ofShort? letter with
    | none => .error (.usage (.unknown (String.ofList ['-', letter])))
    | some (.flag flag) => do (← reading.turnOn flag).readShort rest
    | some (.setting setting) =>
      match rest with
      | [] => .ok { reading with pending := some setting }
      | '=' :: value => reading.assign setting (String.ofList value)
      | value => reading.assign setting (String.ofList value)
    | some .version => .error .version
    | some .help => .error .help

/-- Reads an argument for which no setting waits. -/
def readFresh (reading : Reading) (argument : String) : Except Stop Reading :=
  match argument.toList with
  | ['-', '-'] => .ok { reading with onlyFiles := true }
  | '-' :: '-' :: named =>
    match named.span (· != '=') with
    | (name, []) => reading.readLong (String.ofList name) none
    | (name, _ :: value) => reading.readLong (String.ofList name) (some (String.ofList value))
  | ['-'] => reading.addFile argument
  | '-' :: letters => reading.readShort letters
  | _ => reading.addFile argument

/-- Whether an argument looks like an option. A single dash does not. -/
def isOption (argument : String) : Bool :=
  argument != "-" && argument.toList.head? == some '-'

def read (reading : Reading) (argument : String) : Except Stop Reading :=
  match reading.pending with
  | some setting =>
    if isOption argument then .error (.usage (.missingValue setting))
    else reading.assign setting argument
  | none =>
    if reading.onlyFiles then reading.addFile argument else reading.readFresh argument

def finish (reading : Reading) : Except Stop Options :=
  match reading.pending with
  | some setting => .error (.usage (.missingValue setting))
  | none => reading.options.validate

end Reading

def Options.read (arguments : List String) : Except Stop Options := do
  let reading ← arguments.foldlM Reading.read {}
  reading.finish

end Command

end Transclude
