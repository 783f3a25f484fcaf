import Transclude.Text.Digits
import Transclude.Toml.Value

/-!
Values without delimiters: booleans, numbers, dates and times.
-/

namespace Transclude.Toml.Scalar

/-- Digits of a base with single underscores between them, without the underscores. -/
def digits? (base : Nat) : List Char → Option (List Char)
  | [] => none
  | [c] => if Digits.isDigit base c then some [c] else none
  | c :: '_' :: rest => if Digits.isDigit base c then (digits? base rest).map (c :: ·) else none
  | c :: rest => if Digits.isDigit base c then (digits? base rest).map (c :: ·) else none

def radixNumber? (base : Nat) (text : List Char) : Option Nat :=
  (digits? base text).bind (Digits.number? base)

/-- A decimal numeral, which has no leading zero. -/
def wholeDigits? (text : List Char) : Option (List Char) :=
  match digits? 10 text with
  | some ('0' :: _ :: _) => none
  | digits => digits

def sign : List Char → Bool × List Char
  | '-' :: rest => (true, rest)
  | '+' :: rest => (false, rest)
  | rest => (false, rest)

def integer? (text : List Char) : Option Int :=
  match text with
  | '0' :: 'x' :: rest => (radixNumber? 16 rest).map Int.ofNat
  | '0' :: 'o' :: rest => (radixNumber? 8 rest).map Int.ofNat
  | '0' :: 'b' :: rest => (radixNumber? 2 rest).map Int.ofNat
  | _ =>
    let (negative, rest) := sign text
    ((wholeDigits? rest).bind (Digits.number? 10)).map fun n =>
      if negative then -(n : Int) else n

def exponent? (text : List Char) : Option Int :=
  let (negative, rest) := sign text
  ((digits? 10 rest).bind (Digits.number? 10)).map fun n => if negative then -(n : Int) else n

def isExponentMark (c : Char) : Bool := c == 'e' || c == 'E'

/-- A number with a fraction, an exponent or both. -/
def finite? (negative : Bool) (text : List Char) : Option Number := do
  let mantissa := text.takeWhile fun c => !isExponentMark c
  let exponent ←
    match text.dropWhile fun c => !isExponentMark c with
    | [] => some 0
    | _ :: rest => exponent? rest
  let whole ← wholeDigits? (mantissa.takeWhile (· != '.'))
  match mantissa.dropWhile (· != '.') with
  | [] =>
    if mantissa.length = text.length then none
    else return .finite negative ⟨← Digits.number? 10 whole, exponent⟩
  | _ :: rest =>
    let fraction ← digits? 10 rest
    return .finite negative ⟨← Digits.number? 10 (whole ++ fraction), exponent - fraction.length⟩

def number? (text : List Char) : Option Number :=
  let (negative, rest) := sign text
  match String.ofList rest with
  | "inf" => some (.infinite negative)
  | "nan" => some .nan
  | _ => finite? negative rest

/-- A number of exactly two digits below a bound. -/
def twoDigits? (bound : Nat) (tens ones : Char) : Option Nat :=
  ((Digits.number? 10 [tens, ones]).filter (· < bound))

def isLeapYear (year : Nat) : Bool :=
  year % 4 = 0 && (year % 100 != 0 || year % 400 = 0)

def daysIn (year month : Nat) : Nat :=
  if month = 2 then (if isLeapYear year then 29 else 28)
  else if month ∈ [4, 6, 9, 11] then 30
  else 31

/-- What follows a date at the start of a text. -/
def afterDate? : List Char → Option (List Char)
  | a :: b :: c :: d :: '-' :: m :: n :: '-' :: p :: q :: rest => do
    let year ← Digits.number? 10 [a, b, c, d]
    let month ← twoDigits? 13 m n
    let day ← twoDigits? 32 p q
    if 1 ≤ month && 1 ≤ day && day ≤ daysIn year month then some rest else none
  | _ => none

def afterSeconds? : List Char → Option (List Char)
  | ':' :: s :: t :: rest => do
    let _ ← twoDigits? 61 s t
    match rest with
    | '.' :: c :: more => if c.isDigit then some (more.dropWhile Char.isDigit) else none
    | _ => some rest
  | rest => some rest

/-- What follows a time at the start of a text; seconds may be left out. -/
def afterTime? : List Char → Option (List Char)
  | h :: i :: ':' :: m :: n :: rest => do
    let _ ← twoDigits? 24 h i
    let _ ← twoDigits? 60 m n
    afterSeconds? rest
  | _ => none

def isOffset : List Char → Bool
  | [] => true
  | ['z'] | ['Z'] => true
  | [s, h, i, ':', m, n] =>
    (s == '+' || s == '-') && (twoDigits? 24 h i).isSome && (twoDigits? 60 m n).isSome
  | _ => false

/-- Whether a text is a date, a time, or both with or without an offset. -/
def isDate (text : List Char) : Bool :=
  match afterDate? text with
  | some [] => true
  | some (c :: rest) =>
    (c == 'T' || c == 't' || c == ' ') && ((afterTime? rest).map isOffset).getD false
  | none => afterTime? text == some []

def value? (text : List Char) : Option Value :=
  match String.ofList text with
  | "true" => some (.boolean true)
  | "false" => some (.boolean false)
  | written =>
    ((integer? text).map Value.integer).orElse fun _ =>
      ((number? text).map Value.number).orElse fun _ =>
        if isDate text then some (.date written) else none

def isScalarChar (c : Char) : Bool :=
  c.isAlphanum || c == '+' || c == '-' || c == '_' || c == '.' || c == ':'

/-- The characters of a scalar and what follows them. A blank may stand between a date and a
time. -/
def extent (input : List Char) : List Char × List Char :=
  let word := input.takeWhile isScalarChar
  let rest := input.dropWhile isScalarChar
  match afterDate? word, rest with
  | some [], ' ' :: c :: more =>
    if c.isDigit then
      (word ++ ' ' :: (c :: more).takeWhile isScalarChar, (c :: more).dropWhile isScalarChar)
    else (word, rest)
  | _, _ => (word, rest)

def read? (input : List Char) : Option (Value × List Char) :=
  (value? (extent input).1).map (·, (extent input).2)

end Transclude.Toml.Scalar
