import Transclude.Diff.Edit

/-!
Tidying edit scripts. Where the last line of an insertion equals the kept line before it, the
insertion can be moved up by one line without changing what the script does. Each insertion is moved
up and down as far as it goes, so that it may join with others; deletions join with those that only
insertions separate from them.
-/

namespace Transclude

namespace Diff

/-- An edit with what is before it, nearest first, and what is behind it. -/
structure Focus where
  before : Script
  edit : Edit
  after : Script

def keepFirst (lines : List String) : Script → Script
  | ⟨.keep, kept⟩ :: rest => ⟨.keep, lines ++ kept⟩ :: rest
  | script => Script.one .keep lines ++ script

def keepLast (lines : List String) : Script → Script
  | ⟨.keep, kept⟩ :: rest => ⟨.keep, kept ++ lines⟩ :: rest
  | script => Script.one .keep lines ++ script

/-- Moves an insertion up over kept lines, given in reverse. The result is what is left of these,
the insertion, and the lines it passed. -/
def liftOver (lines passed : List String) : List String → List String × List String × List String
  | [] => ([], lines, passed)
  | line :: rest =>
    if lines.getLast? = some line then liftOver (line :: lines.dropLast) (line :: passed) rest
    else (line :: rest, lines, passed)

def lowerOver (lines passed : List String) : List String → List String × List String × List String
  | [] => ([], lines, passed)
  | line :: rest =>
    if lines.head? = some line then lowerOver (lines.tail ++ [line]) (passed ++ [line]) rest
    else (line :: rest, lines, passed)

/-- Moves an edit up as far as it goes. Only insertions pass kept lines; edits of other kinds change
places, and those of one kind join. -/
def slideUp (edit : Edit) (after : Script) : Script → Focus
  | [] => ⟨[], edit, after⟩
  | ⟨.keep, kept⟩ :: before =>
    if edit.kind = .insert then
      let (left, lines, passed) := liftOver edit.lines [] kept.reverse
      let after := keepFirst passed after
      if left.isEmpty then slideUp ⟨.insert, lines⟩ after before
      else ⟨⟨.keep, left.reverse⟩ :: before, ⟨.insert, lines⟩, after⟩
    else ⟨⟨.keep, kept⟩ :: before, edit, after⟩
  | other :: before =>
    if other.kind = edit.kind then slideUp ⟨edit.kind, other.lines ++ edit.lines⟩ after before
    else slideUp edit (other :: after) before

def slideDown (before : Script) (edit : Edit) : Script → Focus
  | [] => ⟨before, edit, []⟩
  | ⟨.keep, kept⟩ :: after =>
    if edit.kind = .insert then
      let (left, lines, passed) := lowerOver edit.lines [] kept
      let before := keepLast passed before
      if left.isEmpty then slideDown before ⟨.insert, lines⟩ after
      else ⟨before, ⟨.insert, lines⟩, ⟨.keep, left⟩ :: after⟩
    else ⟨before, edit, ⟨.keep, kept⟩ :: after⟩
  | other :: after =>
    if other.kind = edit.kind then slideDown before ⟨edit.kind, edit.lines ++ other.lines⟩ after
    else slideDown (other :: before) edit after

/-- Moves one edit of a kind after the other. Each step leaves fewer lines behind the edit at hand
or joins it with another. -/
def slideFrom (kind : Kind) : Nat → Script → Script → Script
  | 0, before, after => before.reverse ++ after
  | _ + 1, before, [] => before.reverse
  | fuel + 1, before, edit :: after =>
    if edit.kind = kind then
      let lifted := slideUp edit after before
      let lowered := slideDown lifted.before lifted.edit lifted.after
      slideFrom kind fuel (lowered.edit :: lowered.before) lowered.after
    else slideFrom kind fuel (edit :: before) after

def slide (kind : Kind) (script : Script) : Script :=
  slideFrom kind ((script.size + 1) * (script.length + 1)) [] script

/-- Moves first the deletions and then the insertions. -/
def tidy (script : Script) : Script := slide .insert (slide .delete script)

end Diff

end Transclude
