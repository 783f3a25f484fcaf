import Transclude.Pattern.Basic

/-!
Indentation: taking the indentation of the first node from all nodes, and rescaling indentation so
that its smallest step becomes a given width.
-/

namespace Transclude

namespace Indent

open Transclude.Expr in
/-- The spaces and tabs at the start of a text. -/
def leadingBlanks : Pattern :=
  .ofExpr (concat (look .textStart)
    (group 1 (repeated 1 none true (set (.union (.single ' ') (.single '\t'))))))

/-- A text without what it has in common with a leading text, if it starts with it. -/
def strip (lead : List Char) (text : String) : String :=
  if lead.isPrefixOf text.toList then String.ofList (text.toList.drop lead.length) else text

def lead (pattern : Pattern) (nodes : List String) : String :=
  (nodes.head?.bind pattern.captureOrMatch?).getD ""

/-- Takes the lead of the first node from every node that starts with it. -/
def dedent (pattern : Pattern) (nodes : List String) : List String :=
  nodes.map (strip (lead pattern nodes).toList)

/-- The leading run of spaces and tabs, in columns; a tab counts as `width` columns. -/
def columns (width : Nat) : List Char → Nat
  | ' ' :: rest => columns width rest + 1
  | '\t' :: rest => columns width rest + width
  | _ => 0

/-- A text with `width` spaces in the place of each tab. -/
def expand (width : Nat) (text : List Char) : List Char :=
  text.flatMap fun c => if c = '\t' then List.replicate width ' ' else [c]

/-- The greatest common divisor of all indentations, or zero where nothing is indented. -/
def indentStep (width : Nat) (nodes : List String) : Nat :=
  (nodes.map fun node => columns width node.toList).foldl Nat.gcd 0

/-- A node whose indentation counts `width` spaces for each step. -/
def rescale (width unit : Nat) (node : String) : String :=
  let indent := columns width node.toList
  String.ofList (List.replicate (indent / unit * width) ' ' ++
    (expand width node.toList).drop indent)

/-- Rescales indentation to `width`; nodes without any indentation stay as they are. -/
def reindent (width : Nat) (nodes : List String) : List String :=
  let unit := indentStep width nodes
  if unit = 0 then nodes else nodes.map (rescale width unit)

/-! Sizes, in bytes. What is described above are texts of any length; where one of them is longer
than a text can be, the rule gives no result. -/

/-- No text is longer. -/
def maxSize : Nat := Nat.pow 2 63 - 1

/-- The size of an expanded text, found without expanding it. -/
def expandedSize (width : Nat) : List Char → Nat
  | [] => 0
  | c :: rest => (if c = '\t' then width else c.utf8Size) + expandedSize width rest

def rescaledSize (width unit : Nat) (text : List Char) : Nat :=
  let indent := columns width text
  indent / unit * width + (expandedSize width text - indent)

/-- Whether the spaces for a tab and all expanded and rescaled texts can be made. None of them is
where nothing is indented. -/
def hasRoom (width : Nat) (nodes : List String) : Bool :=
  let unit := indentStep width nodes
  decide (unit = 0) || decide (width ≤ maxSize) && nodes.all fun node =>
    decide (expandedSize width node.toList ≤ maxSize) &&
      decide (rescaledSize width unit node.toList ≤ maxSize)

def defaultWidth : Nat := 2

/-- A width of zero stands for the default. -/
def effectiveWidth (width : Nat) : Nat := if width = 0 then defaultWidth else width

end Indent

end Transclude
