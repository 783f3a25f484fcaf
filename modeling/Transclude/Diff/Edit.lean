/-!
Edit scripts. A script is a list of edits, each of them for several lines; the lines that it keeps
and deletes make up the old text, and those that it keeps and inserts the new one.
-/

namespace Transclude

namespace Diff

inductive Kind where
  | keep
  | delete
  | insert
  deriving DecidableEq, Repr, Inhabited

structure Edit where
  kind : Kind
  lines : List String
  deriving DecidableEq, Repr, Inhabited

abbrev Script := List Edit

namespace Script

/-- An edit, unless it has no lines. -/
def one (kind : Kind) (lines : List String) : Script :=
  if lines.isEmpty then [] else [⟨kind, lines⟩]

/-- Deletes everything and then inserts everything. -/
def replacement (old new : List String) : Script := one .delete old ++ one .insert new

def size (script : Script) : Nat := (script.flatMap fun edit => edit.lines).length

end Script

/-- A change of one line. -/
structure Change where
  kind : Kind
  line : String
  deriving DecidableEq, Repr, Inhabited

/-- The changes of a script line by line. Between two kept lines all deletions come first. -/
def Script.changes (deleted inserted : List String) : Script → List Change
  | [] => deleted.map (Change.mk .delete) ++ inserted.map (Change.mk .insert)
  | ⟨.keep, lines⟩ :: rest =>
    deleted.map (Change.mk .delete) ++ inserted.map (Change.mk .insert) ++
      lines.map (Change.mk .keep) ++ Script.changes [] [] rest
  | ⟨.delete, lines⟩ :: rest => Script.changes (deleted ++ lines) inserted rest
  | ⟨.insert, lines⟩ :: rest => Script.changes deleted (inserted ++ lines) rest

end Diff

end Transclude
