import Transclude.Indent
import Transclude.Region

/-!
Rules: the transformations of which a pipeline consists. Embedding rules hold the rules that are
run on what they embed.
-/

namespace Transclude

inductive Rule where
  /-- Embeds whole files. -/
  | mapfile (markers : Markers) (defaultSkip : Nat) (inner : List Rule)
  /-- Embeds named regions of files. -/
  | maprange (markers : Markers) (defaultSkip : Nat) (inner : List Rule)
  /-- Keeps the regions of one name. -/
  | range (filter : RegionFilter)
  | dedent (lead : Pattern)
  /-- A width of zero stands for the default. -/
  | reindent (width : Nat)
  deriving Inhabited

namespace Rule

def name : Rule → String
  | mapfile _ _ _ => Directive.mapfile.name
  | maprange _ _ _ => Directive.maprange.name
  | range _ => Directive.range.name
  | dedent _ => "dedent"
  | reindent _ => "reindent"

/-- The rules of a pipeline for which none are given. -/
def defaults : List Rule :=
  [mapfile (.standard .mapfile) 0 [], maprange (.standard .maprange) 0 []]

/-- The given rules, or the default ones when there are none. -/
def orDefaults (rules : List Rule) : List Rule := if rules.isEmpty then defaults else rules

end Rule

end Transclude
