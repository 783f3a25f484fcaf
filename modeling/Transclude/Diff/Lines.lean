import Transclude.Diff.Shortest
import Transclude.Diff.Slide

/-!
The changes between two texts, line by line. A line ends behind a line feed, behind a carriage
return, or behind the two together.
-/

namespace Transclude

namespace Diff

/-- The lines of a text with their ends, given the characters of the line at hand in reverse. -/
def linesFrom (held : List Char) : List Char → List String
  | [] => if held.isEmpty then [] else [String.ofList held.reverse]
  | '\r' :: '\n' :: rest => String.ofList ('\n' :: '\r' :: held).reverse :: linesFrom [] rest
  | c :: rest =>
    if c = '\n' ∨ c = '\r' then String.ofList (c :: held).reverse :: linesFrom [] rest
    else linesFrom (c :: held) rest

def lines (text : String) : List String := linesFrom [] text.toList

def isEnded (line : String) : Bool :=
  line.toList.getLast? == some '\n' || line.toList.getLast? == some '\r'

def changes (old new : String) : List Change :=
  (tidy (shortest (lines old) (lines new))).changes [] []

end Diff

end Transclude
