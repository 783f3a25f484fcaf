import Transclude.Parameter.Target
import Transclude.Path
import Transclude.Stream

/-!
The ways in which a run can fail, and how each of them is reported.
-/

namespace Transclude

inductive Directive where
  | mapfile
  | maprange
  | range
  deriving DecidableEq, Repr, Inhabited

def Directive.name : Directive → String
  | mapfile => "mapfile"
  | maprange => "maprange"
  | range => "range"

/-- What is wrong with a marker pattern of the settings. -/
inductive PatternFault where
  | unreadable
  | groupCount (count : Nat)
  deriving DecidableEq, Repr, Inhabited

def PatternFault.message : PatternFault → String
  | unreadable => "not a regular expression"
  | groupCount count => "expected exactly one capture group, found " ++ toString count

inductive Failure where
  | notFound (path : Path)
  | read (path : Path) (error : IoError)
  | unterminated (directive : Directive) (path : Path) (line : Nat)
  | malformed (directive : Directive) (value : String) (fault : Parameter.Fault)
  /-- Settings that cannot be read, with the fault where it is one of the fields. -/
  | settings (detail : Option String)
  | pattern (field : String) (fault : PatternFault)
  deriving DecidableEq, Repr, Inhabited

namespace Failure

def ofIo (path : Path) : IoError → Failure
  | .notFound => notFound path
  | error => read path error

def message : Failure → String
  | notFound path => "file not found: `" ++ path.text ++ "`"
  | read path error => "failed to read `" ++ path.text ++ "`: " ++ error.message
  | unterminated directive path line =>
    "`" ++ directive.name ++ "` directive opened at " ++ path.text ++ ":" ++ toString line ++
      " has no end marker"
  | malformed directive value fault =>
    "malformed `" ++ directive.name ++ "` parameter `" ++ value ++ "`: " ++ fault.message
  | settings detail => "failed to parse config file: " ++ detail.getD "not valid TOML"
  | pattern field fault => "invalid pattern for `" ++ field ++ "`: " ++ fault.message

def code : Failure → String
  | notFound _ => "mapdoc::not_found"
  | read _ _ => "mapdoc::read_error"
  | unterminated _ _ _ => "mapdoc::unterminated_directive"
  | malformed _ _ _ => "mapdoc::malformed_parameter"
  | settings _ => "mapdoc::config_parse"
  | pattern _ _ => "mapdoc::invalid_pattern"

def help? : Failure → Option String
  | notFound _ =>
    some "embed paths are resolved relative to the directory of the file that references them"
  | read _ _ => none
  | unterminated _ _ _ => some "add the matching end marker line before the end of the file"
  | malformed _ _ _ =>
    some ("use a plain path, `path,name` for maprange, or a record such as " ++
      "`\x7bfile:\"a.md\",skip:1\x7d`")
  | settings _ =>
    some "check that mapdoc.toml is valid TOML with [mapfile] and/or [maprange] sections"
  | pattern _ _ =>
    some "start patterns must be valid regular expressions with exactly one capture group"

end Failure

end Transclude
