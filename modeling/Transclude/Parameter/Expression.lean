import Transclude.Parameter.Quoted
import Transclude.Parameter.Token

/-!
The expressions of the parameter language: a scalar, or a record of fields in braces.
-/

namespace Transclude.Parameter

inductive Value where
  | text (text : String)
  | integer (number : Int)
  deriving DecidableEq, Repr, Inhabited

/-- The fields of a record in the order in which they were written. -/
abbrev Record := List (String × Value)

/-- A field has the value that it was given last. -/
def Record.get? (record : Record) (key : String) : Option Value :=
  (record.reverse.find? fun field => field.1 == key).map Prod.snd

inductive Expression where
  | scalar (text : String)
  | record (fields : Record)
  deriving DecidableEq, Repr, Inhabited

namespace Token

def integerValue? : List Char → Option Int
  | '-' :: digits => (Digits.number? 10 digits).map fun n => -(n : Int)
  | digits => (Digits.number? 10 digits).map fun n => (n : Int)

/-- Field values are limited to 64 bits with a sign. -/
def fits (number : Int) : Bool := -Int.pow 2 63 ≤ number && number < Int.pow 2 63

def scalar? : Token → Option String
  | doubleQuoted text | singleQuoted text => Quoted.decode? text
  | integer text | word text => some (String.ofList text)
  | _ => none

/-- A token as the key of a field. -/
def key? : Token → Option String
  | doubleQuoted text | singleQuoted text => Quoted.decode? text
  | word text => some (String.ofList text)
  | _ => none

/-- A token as the value of a field. -/
def value? : Token → Option Value
  | doubleQuoted text | singleQuoted text => (Quoted.decode? text).map .text
  | integer text => ((integerValue? text).filter fits).map .integer
  | word text => some (.text (String.ofList text))
  | _ => none

end Token

namespace Expression

/-- The fields that the tokens behind an opening brace write, up to the closing one at their end. -/
def fields? : List Token → Option Record
  | [.braceClose] => some []
  | keyToken :: .colon :: valueToken :: rest => do
    let key ← keyToken.key?
    let value ← valueToken.value?
    match rest with
    | [.braceClose] => some [(key, value)]
    | .comma :: more => (fields? more).map ((key, value) :: ·)
    | _ => none
  | _ => none

def ofTokens? : List Token → Option Expression
  | .braceOpen :: rest => (fields? rest).map .record
  | [token] => token.scalar?.map .scalar
  | _ => none

/-- The expression that a text writes, if the whole text is one. -/
def evaluate? (source : String) : Option Expression :=
  (Token.significant? source.toList).bind ofTokens?

end Expression

end Transclude.Parameter
