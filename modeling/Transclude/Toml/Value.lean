import Transclude.Text.Decimal

/-!
The values that a TOML document holds.
-/

namespace Transclude.Toml

/-- A floating-point number as it is written. -/
inductive Number where
  | finite (negative : Bool) (value : Decimal)
  | infinite (negative : Bool)
  | nan
  deriving DecidableEq, Repr, Inhabited

/-- How a number is shown, unless it is too large for double precision. -/
def Number.shown? : Number → Option String
  | finite negative value =>
    value.toDouble?.map fun double =>
      (if negative then "-" else "") ++ double.shortest.positional
  | infinite negative => some (if negative then "-inf" else "inf")
  | nan => some "NaN"

inductive Value where
  | text (text : String)
  | integer (number : Int)
  | number (number : Number)
  | boolean (value : Bool)
  | array (items : List Value)
  | table (fields : List (String × Value))
  deriving Repr, Inhabited

/-- The field under which a date or time stands in the table that it is read as. -/
def dateField : String := "$__toml_private_datetime"

/-- A date or time as it is written. -/
def Value.date (text : String) : Value := table [(dateField, .text text)]

end Transclude.Toml
