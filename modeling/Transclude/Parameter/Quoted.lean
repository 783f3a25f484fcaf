import Transclude.Text.Digits

/-!
The text that a quoted token stands for. A token may hold several quoted parts in a row: the scan
that finds its end and the one that reads it differ on single quotes, between which a backslash has
no meaning here.
-/

namespace Transclude.Parameter.Quoted

/-- Where a character stands. -/
inductive Context where
  | bare
  | single
  | double
  deriving DecidableEq, Repr, Inhabited

/-- The character that a backslash and one further character stand for between double quotes. -/
def escape? : Char → Option Char
  | 'a' => some '\x07'
  | 'b' => some '\x08'
  | 'v' => some '\x0b'
  | 'f' => some '\x0c'
  | 'n' => some '\n'
  | 'r' => some '\r'
  | 't' => some '\t'
  | 'e' | 'E' => some '\x1b'
  | '\\' => some '\\'
  | '\'' => some '\''
  | '"' => some '"'
  | '$' => some '$'
  | '\x60' => some '\x60'
  | ' ' => some ' '
  | _ => none

/-- The character written as a hexadecimal number, for which a leading plus is fine. -/
def scalar? (digits : List Char) : Option Char :=
  let unsigned :=
    match digits with
    | '+' :: rest => rest
    | _ => digits
  (Digits.number? 16 unsigned).bind Digits.scalar?

theorem length_drop_closed (rest : List Char) :
    ((rest.dropWhile (· != '\x7d')).drop 1).length ≤ rest.length := by
  have shorter := (List.dropWhile_suffix (l := rest) (· != '\x7d')).length_le
  simp only [List.length_drop]
  omega

/-- What a text stands for that starts in a given context. An open quote need not be closed. -/
def read? (context : Context) (input : List Char) : Option (List Char) :=
  match context, input with
  | _, [] => some []
  | .bare, '\'' :: rest => read? .single rest
  | .bare, '"' :: rest => read? .double rest
  | .bare, c :: rest => (read? .bare rest).map (c :: ·)
  | .single, '\'' :: rest => read? .bare rest
  | .single, c :: rest => (read? .single rest).map (c :: ·)
  | .double, '"' :: rest => read? .bare rest
  | .double, ['\\'] => none
  | .double, '\\' :: 'u' :: '\x7b' :: rest => do
    let c ← scalar? (rest.takeWhile (· != '\x7d'))
    (read? .double ((rest.dropWhile (· != '\x7d')).drop 1)).map (c :: ·)
  | .double, '\\' :: e :: rest => do
    let c ← escape? e
    (read? .double rest).map (c :: ·)
  | .double, c :: rest => (read? .double rest).map (c :: ·)
termination_by input.length
decreasing_by
  all_goals simp only [List.length_cons]
  all_goals first | omega | exact Nat.lt_of_le_of_lt (length_drop_closed rest) (by omega)

def decode? (token : List Char) : Option String :=
  (read? .bare token).map String.ofList

end Transclude.Parameter.Quoted
