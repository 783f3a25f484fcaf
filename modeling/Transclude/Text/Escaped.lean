import Transclude.Unicode.Property

/-!
The quoted form in which messages show a text: what cannot be seen is written as an escape.
-/

namespace Transclude.Escaped

/-- Characters that attach to the one before them and so cannot be shown alone. -/
def extender : Unicode.Property := (Unicode.Property.ofName? "graphemeextend").getD default

/-- Characters that have no visible form of their own. -/
def hidden : List Unicode.Category := [.cc, .cf, .cs, .co, .cn, .zl, .zp, .zs]

def isVisible (c : Char) : Bool :=
  c == ' ' || (!decide (Unicode.Category.of c ∈ hidden) && !extender.holds c)

/-- One character as it stands between the quotes. -/
def encodeChar (c : Char) : List Char :=
  if c = '\x00' then ['\\', '0']
  else if c = '\t' then ['\\', 't']
  else if c = '\n' then ['\\', 'n']
  else if c = '\r' then ['\\', 'r']
  else if c = '"' || c = '\\' then ['\\', c]
  else if isVisible c then [c]
  else ['\\', 'u', '\x7b'] ++ Digits.toLowerHex c.toNat ++ ['\x7d']

def quote (text : String) : String :=
  String.ofList ('"' :: text.toList.flatMap encodeChar ++ ['"'])

end Transclude.Escaped
