import Transclude.Text.Digits

/-!
The four forms of strings: basic and literal, each on one line or on several.
-/

namespace Transclude.Toml.Quoted

/-- Control characters stand for themselves in no string, the tab apart. -/
def isControl (c : Char) : Bool := (c.toNat < 32 && c != '\t') || c.toNat = 127

def scalar? (digits : List Char) : Option Char := (Digits.number? 16 digits).bind Digits.scalar?

/-- What a backslash and the characters behind it stand for in a basic string, and what follows. -/
def escape? : List Char → Option (Char × List Char)
  | 'b' :: rest => some ('\x08', rest)
  | 't' :: rest => some ('\t', rest)
  | 'n' :: rest => some ('\n', rest)
  | 'f' :: rest => some ('\x0c', rest)
  | 'r' :: rest => some ('\r', rest)
  | 'e' :: rest => some ('\x1b', rest)
  | '"' :: rest => some ('"', rest)
  | '\\' :: rest => some ('\\', rest)
  | 'x' :: a :: b :: rest => (scalar? [a, b]).map (·, rest)
  | 'u' :: a :: b :: c :: d :: rest => (scalar? [a, b, c, d]).map (·, rest)
  | 'U' :: a :: b :: c :: d :: e :: f :: g :: h :: rest =>
    (scalar? [a, b, c, d, e, f, g, h]).map (·, rest)
  | _ => none

theorem escape?_shorter {input rest : List Char} {c : Char}
    (h : escape? input = some (c, rest)) : rest.length < input.length := by
  unfold escape? at h
  split at h
  all_goals
    first
    | (cases h; done)
    | (cases h; simp only [List.length_cons]; omega)
    | (obtain ⟨_, _, same⟩ := Option.map_eq_some_iff.1 h
       cases same
       simp only [List.length_cons]
       omega)

def basic? : List Char → Option (List Char × List Char)
  | [] => none
  | '"' :: rest => some ([], rest)
  | '\\' :: rest =>
    match _step : escape? rest with
    | some (c, rest) => (basic? rest).map fun (more, after) => (c :: more, after)
    | none => none
  | c :: rest =>
    if isControl c then none
    else (basic? rest).map fun (more, after) => (c :: more, after)
termination_by input => input.length
decreasing_by
  · have shorter := escape?_shorter _step
    simp only [List.length_cons]
    omega
  · simp

def literal? : List Char → Option (List Char × List Char)
  | [] => none
  | '\'' :: rest => some ([], rest)
  | c :: rest =>
    if isControl c then none
    else (literal? rest).map fun (more, after) => (c :: more, after)

/-- A text without the line end at its start. -/
def dropLineEnd : List Char → List Char
  | '\n' :: rest => rest
  | '\r' :: '\n' :: rest => rest
  | rest => rest

def isInlineBlank (c : Char) : Bool := c == ' ' || c == '\t'

/-- A text without the blanks and line ends at its start. -/
def dropBlanks : List Char → List Char
  | ' ' :: rest => dropBlanks rest
  | '\t' :: rest => dropBlanks rest
  | '\n' :: rest => dropBlanks rest
  | '\r' :: '\n' :: rest => dropBlanks rest
  | rest => rest

theorem dropBlanks_length (input : List Char) : (dropBlanks input).length ≤ input.length := by
  fun_induction dropBlanks input with
  | case1 | case2 | case3 | case4 => simp only [List.length_cons]; omega
  | case5 => exact Nat.le_refl _

/-- What follows a backslash at the end of a line: the next text, on whatever line it starts. -/
def continued? (input : List Char) : Option (List Char) :=
  match input.dropWhile isInlineBlank with
  | '\n' :: rest => some (dropBlanks rest)
  | '\r' :: '\n' :: rest => some (dropBlanks rest)
  | _ => none

theorem continued?_shorter {input rest : List Char} (h : continued? input = some rest) :
    rest.length < input.length := by
  have shorter := (List.dropWhile_suffix (l := input) isInlineBlank).length_le
  unfold continued? at h
  split at h
  · next found =>
    cases h
    have := dropBlanks_length ‹List Char›
    simp only [found, List.length_cons] at shorter
    omega
  · next found =>
    cases h
    have := dropBlanks_length ‹List Char›
    simp only [found, List.length_cons] at shorter
    omega
  · cases h

/-- The characters of a basic string on several lines behind its quotes and their line end, and
what follows it. Up to two quotes may stand directly before the closing ones. -/
def longBasic? : List Char → Option (List Char × List Char)
  | [] => none
  | '"' :: '"' :: '"' :: '"' :: '"' :: rest => some (['"', '"'], rest)
  | '"' :: '"' :: '"' :: '"' :: rest => some (['"'], rest)
  | '"' :: '"' :: '"' :: rest => some ([], rest)
  | '\\' :: rest =>
    match _line : continued? rest with
    | some rest => longBasic? rest
    | none =>
      match _step : escape? rest with
      | some (c, rest) => (longBasic? rest).map fun (more, after) => (c :: more, after)
      | none => none
  | '\r' :: '\n' :: rest =>
    (longBasic? rest).map fun (more, after) => ('\r' :: '\n' :: more, after)
  | c :: rest =>
    if isControl c && c != '\n' then none
    else (longBasic? rest).map fun (more, after) => (c :: more, after)
termination_by input => input.length
decreasing_by
  · have shorter := continued?_shorter _line
    simp only [List.length_cons]
    omega
  · have shorter := escape?_shorter _step
    simp only [List.length_cons]
    omega
  · simp only [List.length_cons]
    omega
  · simp

/-- The characters of a literal string on several lines behind its quotes and their line end, and
what follows it. -/
def longLiteral? : List Char → Option (List Char × List Char)
  | [] => none
  | '\'' :: '\'' :: '\'' :: '\'' :: '\'' :: rest => some (['\'', '\''], rest)
  | '\'' :: '\'' :: '\'' :: '\'' :: rest => some (['\''], rest)
  | '\'' :: '\'' :: '\'' :: rest => some ([], rest)
  | '\r' :: '\n' :: rest =>
    (longLiteral? rest).map fun (more, after) => ('\r' :: '\n' :: more, after)
  | c :: rest =>
    if isControl c && c != '\n' then none
    else (longLiteral? rest).map fun (more, after) => (c :: more, after)

def readShort? : List Char → Option (String × List Char)
  | '"' :: rest => (basic? rest).map fun (text, after) => (String.ofList text, after)
  | '\'' :: rest => (literal? rest).map fun (text, after) => (String.ofList text, after)
  | _ => none

def read? : List Char → Option (String × List Char)
  | '"' :: '"' :: '"' :: rest =>
    (longBasic? (dropLineEnd rest)).map fun (text, after) => (String.ofList text, after)
  | '\'' :: '\'' :: '\'' :: rest =>
    (longLiteral? (dropLineEnd rest)).map fun (text, after) => (String.ofList text, after)
  | input => readShort? input

end Transclude.Toml.Quoted
