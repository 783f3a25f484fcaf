import Transclude.Toml.Quoted
import Transclude.Toml.Scalar
import Transclude.Toml.Tree

/-!
Reads TOML documents.
-/

namespace Transclude.Toml.Reader

def skipInline (input : List Char) : List Char := input.dropWhile Quoted.isInlineBlank

/-- The rest of a line that may hold a comment, without its line end. -/
def comment? : List Char → Option (List Char)
  | '#' :: rest =>
    match rest.dropWhile fun c => !Quoted.isControl c with
    | [] => some []
    | '\n' :: after => some ('\n' :: after)
    | '\r' :: '\n' :: after => some ('\r' :: '\n' :: after)
    | _ => none
  | input => some input

/-- What follows the end of a line, before which only blanks and a comment may stand. -/
def lineEnd? (input : List Char) : Option (List Char) := do
  match ← comment? (skipInline input) with
  | [] => some []
  | '\n' :: rest => some rest
  | '\r' :: '\n' :: rest => some rest
  | _ => none

def skipLines : Nat → List Char → Option (List Char)
  | 0, _ => none
  | fuel + 1, input =>
    match skipInline input with
    | '#' :: rest => do skipLines fuel (← comment? ('#' :: rest))
    | '\n' :: rest => skipLines fuel rest
    | '\r' :: '\n' :: rest => skipLines fuel rest
    | rest => some rest

def isBareChar (c : Char) : Bool := c.isAlphanum || c == '_' || c == '-'

def key? : List Char → Option (String × List Char)
  | [] => none
  | c :: rest =>
    if c = '"' || c = '\'' then Quoted.readShort? (c :: rest)
    else if isBareChar c then
      some (String.ofList (c :: rest.takeWhile isBareChar), rest.dropWhile isBareChar)
    else none

/-- Keys with points between them: those on the way, the last one, and what follows. -/
def keys? : Nat → List Char → Option (List String × String × List Char)
  | 0, _ => none
  | fuel + 1, input => do
    let (key, rest) ← key? (skipInline input)
    match skipInline rest with
    | '.' :: rest =>
      let (path, last, after) ← keys? fuel rest
      return (key :: path, last, after)
    | rest => return ([], key, rest)

/-- Arrays and tables in values nest no deeper than this. -/
def depthLimit : Nat := 80

mutual

/-- A value, at a nesting depth that is still left. -/
def value? : Nat → Nat → List Char → Option (Value × List Char)
  | 0, _, _ => none
  | fuel + 1, depth, input =>
    match input, depth with
    | '[' :: _, 0 => none
    | '\x7b' :: _, 0 => none
    | '[' :: rest, depth + 1 =>
      (items? fuel depth rest).map fun (items, after) => (.array items, after)
    | '\x7b' :: rest, depth + 1 =>
      (pairs? fuel depth [] rest).map fun (fields, after) =>
        (.table (Node.fieldValues fields), after)
    | '"' :: _, _ | '\'' :: _, _ =>
      (Quoted.read? input).map fun (text, after) => (.text text, after)
    | _, _ => Scalar.read? input

/-- The items of an array behind its bracket or behind a comma. -/
def items? : Nat → Nat → List Char → Option (List Value × List Char)
  | 0, _, _ => none
  | fuel + 1, depth, input => do
    match ← skipLines (input.length + 1) input with
    | ']' :: after => return ([], after)
    | start =>
      let (item, rest) ← value? fuel depth start
      match ← skipLines (rest.length + 1) rest with
      | ']' :: after => return ([item], after)
      | ',' :: rest =>
        let (others, after) ← items? fuel depth rest
        return (item :: others, after)
      | _ => none

/-- The fields of a table in braces behind its brace or behind a comma. -/
def pairs? : Nat → Nat → Fields → List Char → Option (Fields × List Char)
  | 0, _, _, _ => none
  | fuel + 1, depth, fields, input => do
    match ← skipLines (input.length + 1) input with
    | '\x7d' :: after => return (fields, after)
    | start =>
      let (path, key, rest) ← keys? (start.length + 1) start
      match rest with
      | '=' :: rest =>
        let (value, rest) ← value? fuel depth (skipInline rest)
        let fields ← Fields.insert? .header fields false path key value
        match ← skipLines (rest.length + 1) rest with
        | '\x7d' :: after => return (fields, after)
        | ',' :: rest => pairs? fuel depth fields rest
        | _ => none
      | _ => none

end

/-- What has been read of a document, and the path of the table to which keys are added. -/
structure State where
  root : Fields
  header : List String
  deriving Inhabited

def header? (state : State) (input : List Char) : Option (State × List Char) :=
  match input with
  | '[' :: rest => do
    let (path, key, rest) ← keys? (rest.length + 1) rest
    match rest with
    | ']' :: ']' :: after =>
      return (⟨← Fields.modify? (Fields.append? key) path state.root, path ++ [key]⟩, after)
    | _ => none
  | rest => do
    let (path, key, rest) ← keys? (rest.length + 1) rest
    match rest with
    | ']' :: after =>
      return (⟨← Fields.modify? (Fields.define? key) path state.root, path ++ [key]⟩, after)
    | _ => none

def pair? (state : State) (input : List Char) : Option (State × List Char) := do
  let (path, key, rest) ← keys? (input.length + 1) input
  match rest with
  | '=' :: rest =>
    let rest := skipInline rest
    let (value, after) ← value? (rest.length + 1) depthLimit rest
    let add (fields : Fields) := Fields.insert? .header fields false path key value
    return ({ state with root := ← Fields.modify? add state.header state.root }, after)
  | _ => none

def lines? : Nat → State → List Char → Option Fields
  | 0, _, _ => none
  | fuel + 1, state, input => do
    match ← skipLines (input.length + 1) input with
    | [] => return state.root
    | '[' :: rest =>
      let (state, rest) ← header? state rest
      lines? fuel state (← lineEnd? rest)
    | start =>
      let (state, rest) ← pair? state start
      lines? fuel state (← lineEnd? rest)

/-- The fields of a whole document, before which a byte order mark may stand. -/
def document? (text : String) : Option (List (String × Value)) :=
  let input :=
    match text.toList with
    | '\ufeff' :: rest => rest
    | all => all
  (lines? (input.length + 1) ⟨[], []⟩ input).map Node.fieldValues

end Transclude.Toml.Reader
