import Transclude.Text.Digits

/-!
Writes TOML: of the forms in which a string can be written, the plainest that needs no escapes is
taken, and a basic one where all forms need them.
-/

namespace Transclude.Toml.Writer

inductive Form where
  | basic
  | literal
  | longBasic
  | longLiteral
  deriving DecidableEq, Repr, Inhabited

/-- Characters that need no quotes to be told apart. -/
def isPlain (c : Char) : Bool :=
  c.isAlphanum || c == '_' || c == '-' || c == '.' || c == '/' || c == ' ' || c == ':'

/-- Control characters other than tab and line feed. -/
def isControl (c : Char) : Bool := (c.toNat < 32 && c != '\t' && c != '\n') || c.toNat = 127

/-- The length of the longest run of a character in a text that continues a run. -/
def longestRun (mark : Char) (current : Nat) : List Char → Nat
  | [] => current
  | c :: rest =>
    if c = mark then longestRun mark (current + 1) rest
    else max current (longestRun mark 0 rest)

def form (text : List Char) : Form :=
  let controls := text.any isControl
  let backslash := text.contains '\\'
  let lines := text.contains '\n'
  if text.all isPlain then .basic
  else if !controls && !backslash && !text.contains '"' && !lines then .basic
  else if !controls && !text.contains '\'' && !lines then .literal
  else if !controls && !backslash && longestRun '"' 0 text ≤ 2 then .longBasic
  else if !controls && longestRun '\'' 0 text ≤ 2 then .longLiteral
  else if lines then .longBasic
  else .basic

/-- A character of a basic string that is no quote. -/
def escapeChar (long : Bool) (c : Char) : List Char :=
  if c = '\x08' then ['\\', 'b']
  else if c = '\t' then ['\\', 't']
  else if c = '\x0c' then ['\\', 'f']
  else if c = '\r' then ['\\', 'r']
  else if c = '\\' then ['\\', '\\']
  else if c = '\n' then (if long then [c] else ['\\', 'n'])
  else if isControl c then '\\' :: 'u' :: Digits.toUpperHex 4 c.toNat
  else [c]

/-- The characters of a basic string behind a number of quotes in a row that were not escaped; on
several lines every third quote is escaped, on one line each. -/
def escape (long : Bool) (quotes : Nat) : List Char → List Char
  | [] => []
  | c :: rest =>
    if c = '"' then
      if long && quotes < 2 then c :: escape long (quotes + 1) rest
      else '\\' :: c :: escape long 0 rest
    else escapeChar long c ++ escape long 0 rest

/-- A text between delimiters of several lines, with a line end behind the first if it has one. -/
def long (delimiter : String) (text body : List Char) : String :=
  delimiter ++ (if text.contains '\n' then "\n" else "") ++ String.ofList body ++ delimiter

def string (text : String) : String :=
  let cs := text.toList
  match form cs with
  | .basic => "\"" ++ String.ofList (escape false 0 cs) ++ "\""
  | .literal => "'" ++ text ++ "'"
  | .longBasic => long "\"\"\"" cs (escape true 0 cs)
  | .longLiteral => long "'''" cs cs

def boolean (value : Bool) : String := if value then "true" else "false"

def line (key value : String) : String := key ++ " = " ++ value ++ "\n"

end Transclude.Toml.Writer
