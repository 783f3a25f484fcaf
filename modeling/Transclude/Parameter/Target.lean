import Transclude.Parameter.Expression
import Transclude.Text.Escaped

/-!
What the parameter of a start marker asks for: a file, a region of a file, or the name of a region.
-/

namespace Transclude.Parameter

inductive Fault where
  | notText (number : Int)
  | notCount (text : String)
  | negative (number : Int)
  | missing (field : String)
  | noRegion
  deriving DecidableEq, Repr, Inhabited

def Fault.message : Fault → String
  | notText number => "invalid type: integer `" ++ toString number ++ "`, expected a string"
  | notCount text => "invalid type: string " ++ Escaped.quote text ++ ", expected usize"
  | negative number => "invalid value: integer `" ++ toString number ++ "`, expected usize"
  | missing field => "missing field `" ++ field ++ "`"
  | noRegion => "expected `path,name` or a record with `file` and `name`"

/-- A whole file to embed; `skip` is the number of lines to keep at either end of a block. -/
structure FileTarget where
  file : String
  skip : Option Nat
  deriving DecidableEq, Repr, Inhabited

/-- A named region of a file to embed. -/
structure RegionTarget where
  file : String
  name : String
  skip : Option Nat
  deriving DecidableEq, Repr, Inhabited

namespace Record

def text? (record : Record) (key : String) : Except Fault (Option String) :=
  match record.get? key with
  | none => .ok none
  | some (.text text) => .ok (some text)
  | some (.integer number) => .error (.notText number)

def count? (record : Record) (key : String) : Except Fault (Option Nat) :=
  match record.get? key with
  | none => .ok none
  | some (.text text) => .error (.notCount text)
  | some (.integer number) =>
    if number < 0 then .error (.negative number) else .ok (some number.toNat)

def required (key : String) : Option String → Except Fault String
  | some text => .ok text
  | none => .error (.missing key)

def fileTarget (record : Record) : Except Fault FileTarget := do
  let file ← record.text? "file"
  let skip ← record.count? "skip"
  return { file := ← required "file" file, skip }

def regionTarget (record : Record) : Except Fault RegionTarget := do
  let file ← record.text? "file"
  let name ← record.text? "name"
  let skip ← record.count? "skip"
  return { file := ← required "file" file, name := ← required "name" name, skip }

def regionName (record : Record) : Except Fault String := do
  required "name" (← record.text? "name")

end Record

/-- Text that is no expression is taken as it stands. -/
def reading (raw : String) : Expression :=
  (Expression.evaluate? raw).getD (.scalar raw)

/-- Whether the text of a parameter is taken as it stands. -/
def isRaw (raw : String) : Bool := (Expression.evaluate? raw).isNone

def cutAtComma? (text : String) : Option (String × String) :=
  match text.toList.dropWhile (· != ',') with
  | [] => none
  | _ :: after => some (String.ofList (text.toList.takeWhile (· != ',')), String.ofList after)

def FileTarget.decode (raw : String) : Except Fault FileTarget :=
  match reading raw with
  | .record record => Record.fileTarget record
  | .scalar file => .ok { file, skip := none }

def RegionTarget.decode (raw : String) : Except Fault RegionTarget :=
  match reading raw with
  | .record record => Record.regionTarget record
  | .scalar text =>
    match cutAtComma? text with
    | some (file, name) => .ok { file, name, skip := none }
    | none => .error .noRegion

/-- The name in the start marker of a region. -/
def decodeRegionName (raw : String) : Except Fault String :=
  match reading raw with
  | .record record => Record.regionName record
  | .scalar name => .ok name

end Transclude.Parameter
