/-!
Digits and numerals in bases up to thirty-six, of which bases two, eight, ten and sixteen are used.
-/

namespace Transclude.Digits

/-- The value of a digit or letter; letters continue after nine in either case. -/
def value? (c : Char) : Option Nat :=
  if '0' ≤ c ∧ c ≤ '9' then some (c.toNat - 48)
  else if 'a' ≤ c ∧ c ≤ 'z' then some (c.toNat - 87)
  else if 'A' ≤ c ∧ c ≤ 'Z' then some (c.toNat - 55)
  else none

def digit? (base : Nat) (c : Char) : Option Nat :=
  (value? c).filter (· < base)

def isDigit (base : Nat) (c : Char) : Bool := (digit? base c).isSome

/-- The number that digits write after a leading number has been read. -/
def continueNumber (base : Nat) : Nat → List Char → Option Nat
  | n, [] => some n
  | n, c :: rest => do continueNumber base (n * base + (← digit? base c)) rest

def number? (base : Nat) : List Char → Option Nat
  | [] => none
  | digits => continueNumber base 0 digits

def scalar? (code : Nat) : Option Char :=
  if code.isValidChar then some (Char.ofNat code) else none

/-- A number in hexadecimal, in lower case and without leading zeros. -/
def toLowerHex (n : Nat) : List Char := Nat.toDigits 16 n

/-- A number in hexadecimal, in upper case and with at least the given count of digits. -/
def toUpperHex (width n : Nat) : List Char :=
  let digits := (Nat.toDigits 16 n).map Char.toUpper
  List.replicate (width - digits.length) '0' ++ digits

end Transclude.Digits
