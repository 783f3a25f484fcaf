import Transclude.Toml.Value

/-!
A document under construction. Every table knows how it was introduced, since this decides what may
be added to it: a table may be named once in a header, and dotted keys extend only tables that
dotted keys made.
-/

namespace Transclude.Toml

/-- How a table came to be. -/
inductive Origin where
  /-- Named in a header. -/
  | header
  /-- On the way to a table named in a header. -/
  | above
  /-- On the way to a value with a dotted key. -/
  | dotted
  deriving DecidableEq, Repr, Inhabited

inductive Node where
  | value (value : Value)
  | table (origin : Origin) (fields : List (String × Node))
  /-- Tables that were named in headers with doubled brackets, the last one first. -/
  | tables (items : List (List (String × Node)))
  deriving Inhabited

abbrev Fields := List (String × Node)

namespace Fields

def get? (fields : Fields) (key : String) : Option Node :=
  (fields.find? fun field => field.1 == key).map Prod.snd

def set (fields : Fields) (key : String) (node : Node) : Fields :=
  fields.filter (fun field => field.1 != key) ++ [(key, node)]

/-- Adds a value under a path of keys to a table of the given origin. -/
def insert? (origin : Origin) (fields : Fields) (nested : Bool) :
    List String → String → Value → Option Fields
  | [], key, value =>
    -- A dotted key ends in a table made by dotted keys, a plain one in any other.
    if (origin == .dotted) != nested then none
    else if (fields.get? key).isSome then none
    else some (fields.set key (.value value))
  | step :: steps, key, value =>
    match fields.get? step with
    | none =>
      (insert? .dotted [] true steps key value).map fun inner =>
        fields.set step (.table .dotted inner)
    | some (.table .header _) => none
    | some (.table inner innerFields) =>
      (insert? inner innerFields true steps key value).map fun changed =>
        fields.set step (.table inner changed)
    | some (.tables (last :: others)) =>
      (insert? .header last true steps key value).map fun changed =>
        fields.set step (.tables (changed :: others))
    | _ => none

/-- Changes the fields of the table at a path, on the way to which tables are made as needed. -/
def modify? (change : Fields → Option Fields) : List String → Fields → Option Fields
  | [], fields => change fields
  | step :: steps, fields =>
    match fields.get? step with
    | none => (modify? change steps []).map fun inner => fields.set step (.table .above inner)
    | some (.table origin inner) =>
      (modify? change steps inner).map fun changed => fields.set step (.table origin changed)
    | some (.tables (last :: others)) =>
      (modify? change steps last).map fun changed => fields.set step (.tables (changed :: others))
    | _ => none

/-- Names a table in a header. -/
def define? (key : String) (fields : Fields) : Option Fields :=
  match fields.get? key with
  | none => some (fields.set key (.table .header []))
  | some (.table .above inner) => some (fields.set key (.table .header inner))
  | _ => none

/-- Adds a table to those of a header with doubled brackets. -/
def append? (key : String) (fields : Fields) : Option Fields :=
  match fields.get? key with
  | none => some (fields.set key (.tables [[]]))
  | some (.tables items) => some (fields.set key (.tables ([] :: items)))
  | _ => none

end Fields

mutual

def Node.toValue : Node → Value
  | .value held => held
  | .table _ fields => .table (Node.fieldValues fields)
  | .tables items => .array (Node.itemValues items).reverse

def Node.fieldValues : List (String × Node) → List (String × Value)
  | [] => []
  | (key, node) :: rest => (key, node.toValue) :: Node.fieldValues rest

def Node.itemValues : List (List (String × Node)) → List Value
  | [] => []
  | fields :: rest => .table (Node.fieldValues fields) :: Node.itemValues rest

end

end Transclude.Toml
