import Transclude.Pattern.Expr

/-!
The smallest parts of a written pattern: single characters, escapes, named sets and places, and
what they mean under the flags in force.
-/

namespace Transclude.Pattern

structure Flags where
  ignoreCase : Bool := false
  multiLine : Bool := false
  dotAll : Bool := false
  swapGreed : Bool := false
  unicode : Bool := true
  crlf : Bool := false
  /-- Blanks and comments in the pattern are skipped. -/
  verbose : Bool := false
  deriving DecidableEq, Repr, Inhabited

/-- The flags with the one of a letter switched. -/
def Flags.switch? (flags : Flags) (on : Bool) : Char → Option Flags
  | 'i' => some { flags with ignoreCase := on }
  | 'm' => some { flags with multiLine := on }
  | 's' => some { flags with dotAll := on }
  | 'U' => some { flags with swapGreed := on }
  | 'u' => some { flags with unicode := on }
  | 'R' => some { flags with crlf := on }
  | 'x' => some { flags with verbose := on }
  | _ => none

/-- Skips blanks and comments, from inside a comment if one is open. -/
def skipBlanks (inComment : Bool) : List Char → List Char
  | [] => []
  | c :: rest =>
    if inComment then skipBlanks (c != '\n') rest
    else if Unicode.isBlank c then skipBlanks false rest
    else if c = '#' then skipBlanks true rest
    else c :: rest

/-- Skips blanks and comments where they carry no meaning. -/
def skip (verbose : Bool) (input : List Char) : List Char :=
  if verbose then skipBlanks false input else input

theorem skipBlanks_length (inComment : Bool) (input : List Char) :
    (skipBlanks inComment input).length ≤ input.length := by
  induction input generalizing inComment with
  | nil => simp [skipBlanks]
  | cons c rest ih =>
    unfold skipBlanks
    repeat' split
    · exact Nat.le_succ_of_le (ih _)
    · exact Nat.le_succ_of_le (ih _)
    · exact Nat.le_succ_of_le (ih _)
    · exact Nat.le_refl _

theorem skip_length (verbose : Bool) (input : List Char) :
    (skip verbose input).length ≤ input.length := by
  unfold skip
  split
  · exact skipBlanks_length _ _
  · exact Nat.le_refl _

/-- The characters of a class at the start of the input, without the blanks behind each of them,
and what follows. -/
def collect (verbose : Bool) (belongs : Char → Bool) : List Char → List Char × List Char
  | [] => ([], [])
  | c :: rest =>
    if belongs c then
      let (more, after) := collect verbose belongs (skip verbose rest)
      (c :: more, after)
    else ([], c :: rest)
termination_by input => input.length
decreasing_by exact Nat.lt_succ_of_le (skip_length verbose rest)

/-- The sets that have a one-letter escape. -/
inductive Shorthand where
  | digit
  | blank
  | word
  deriving DecidableEq, Repr, Inhabited

def Shorthand.set (unicode : Bool) : Shorthand → CharSet
  | digit => if unicode then .digit else .asciiDigit
  | blank => if unicode then .blank else .asciiBlank
  | word => if unicode then .word else .asciiWord

inductive Atom where
  /-- A character; `byte` when it is written as two hexadecimal digits. -/
  | literal (c : Char) (byte : Bool)
  | dot
  | lineStart
  | lineEnd
  | textStart
  | textEnd
  | word (edge : WordEdge)
  | shorthand (kind : Shorthand) (negated : Bool)
  | named (set : CharSet) (negated : Bool)
  deriving DecidableEq, Repr, Inhabited

/-! Named sets. -/

/-- A name in lower case, without joiners and without a leading `is`. -/
def looseName (name : List Char) : String :=
  let (stripped, body) :=
    match name with
    | a :: b :: rest =>
      if (a == 'i' || a == 'I') && (b == 's' || b == 'S') then (true, rest) else (false, name)
    | _ => (false, name)
  let kept := (body.filter fun c => c != ' ' && c != '_' && c != '-' && c.toNat < 128).map
    Char.toLower
  if stripped && kept == ['c'] then "isc" else String.ofList kept

open Unicode.Category in
/-- The general categories and their unions under their loose names. -/
def categoryNames : List (String × List Unicode.Category) := [
  ("lu uppercaseletter", [lu]), ("ll lowercaseletter", [ll]), ("lt titlecaseletter", [lt]),
  ("lc casedletter", [lu, ll, lt]), ("lm modifierletter", [lm]), ("lo otherletter", [lo]),
  ("l letter", [lu, ll, lt, lm, lo]),
  ("mn nonspacingmark", [mn]), ("mc spacingmark", [mc]), ("me enclosingmark", [me]),
  ("m mark combiningmark", [mn, mc, me]),
  ("nd decimalnumber digit", [nd]), ("nl letternumber", [nl]), ("no othernumber", [no]),
  ("n number", [nd, nl, no]),
  ("pc connectorpunctuation", [pc]), ("pd dashpunctuation", [pd]), ("ps openpunctuation", [ps]),
  ("pe closepunctuation", [pe]), ("pi initialpunctuation", [pi]), ("pf finalpunctuation", [pf]),
  ("po otherpunctuation", [po]), ("p punctuation punct", [pc, pd, ps, pe, pi, pf, po]),
  ("sm mathsymbol", [sm]), ("sc currencysymbol", [sc]), ("sk modifiersymbol", [sk]),
  ("so othersymbol", [so]), ("s symbol", [sm, sc, sk, so]),
  ("zs spaceseparator", [zs]), ("zl lineseparator", [zl]), ("zp paragraphseparator", [zp]),
  ("z separator", [zs, zl, zp]),
  ("cc control cntrl", [cc]), ("cf format", [cf]), ("co privateuse", [co]),
  ("cn unassigned", [cn]), ("c other", [cc, cf, co, cn])]

def categorySet? (name : String) : Option CharSet :=
  if name = "any" then some .all
  else if name = "ascii" then some .ascii
  else if name = "assigned" then some (.complement (.categories [.cn]))
  else
    (categoryNames.find? fun entry => name ∈ entry.1.splitOn " ").map fun entry =>
      .categories entry.2

def scriptSet? (name : String) : Option CharSet :=
  (Unicode.Script.ofName? name).map .script

def propertySet? (name : String) : Option CharSet :=
  if name ∈ ["whitespace", "wspace", "space"] then some .blank
  else (Unicode.Property.ofName? name).map .property

/-- A set by a name of its own: of a property, a category or a script. -/
def namedSet? (name : List Char) : Option CharSet :=
  let name := looseName name
  (if name ∈ ["cf", "sc", "lc"] then none else propertySet? name).orElse fun _ =>
    (categorySet? name).orElse fun _ => scriptSet? name

/-- A set as the value of a property. -/
def valueSet? (property value : List Char) : Option CharSet :=
  let property := looseName property
  if property ∈ ["gc", "generalcategory"] then categorySet? (looseName value)
  else if property ∈ ["sc", "script"] then scriptSet? (looseName value)
  else none

/-- A name cut at the first place where a mark starts. -/
def cutAt? (mark : List Char) : List Char → Option (List Char × List Char)
  | [] => none
  | c :: rest =>
    if mark.isPrefixOf (c :: rest) then some ([], (c :: rest).drop mark.length)
    else (cutAt? mark rest).map fun (left, right) => (c :: left, right)

/-- A set by what stands in the braces of its escape, and whether its complement is meant. -/
def bracedSet? (text : List Char) : Option (CharSet × Bool) :=
  match cutAt? ['!', '='] text with
  | some (property, value) => (valueSet? property value).map (·, true)
  | none =>
    match (cutAt? [':'] text).orElse fun _ => cutAt? ['='] text with
    | some (property, value) => (valueSet? property value).map (·, false)
    | none => (namedSet? text).map (·, false)

/-! Escapes. -/

def isHex (c : Char) : Bool := Digits.isDigit 16 c

/-- A fixed number of hexadecimal digits, and what follows. -/
def hexDigits? (verbose : Bool) : Nat → List Char → Option (List Char × List Char)
  | 0, rest => some ([], rest)
  | _ + 1, [] => none
  | n + 1, c :: rest =>
    if isHex c then
      (hexDigits? verbose n (skip verbose rest)).map fun (more, after) => (c :: more, after)
    else none

/-- A character written as so many hexadecimal digits or as any number of them in braces. -/
def hexEscape? (verbose : Bool) (width : Nat) (input : List Char) :
    Option (Atom × List Char) :=
  match skip verbose input with
  | '\x7b' :: rest =>
    match collect verbose (· != '\x7d') (skip verbose rest) with
    | (digits, _ :: after) => do
      let c ← Digits.scalar? (← Digits.number? 16 digits)
      return (.literal c false, skip verbose after)
    | _ => none
  | rest => do
    let (digits, after) ← hexDigits? verbose width rest
    let c ← Digits.scalar? (← Digits.number? 16 digits)
    return (.literal c (width == 2), after)

def setEscape? (verbose negated : Bool) (input : List Char) : Option (Atom × List Char) :=
  match skip verbose input with
  | [] => none
  | '\x7b' :: rest =>
    match collect verbose (· != '\x7d') (skip verbose rest) with
    | (name, _ :: after) => do
      let (set, flipped) ← bracedSet? name
      return (.named set (negated != flipped), after)
    | _ => none
  | c :: rest => (namedSet? [c]).map fun set => (.named set negated, skip verbose rest)

def isEdgeChar (c : Char) : Bool := c.isAlpha || c == '-'

/-- A word edge, named in braces or plain. Braces that cannot hold a name are left alone. -/
def boundaryEscape? (verbose : Bool) (input : List Char) : Option (Atom × List Char) :=
  match input with
  | '\x7b' :: rest =>
    match skip verbose rest with
    | [] => none
    | c :: inner =>
      if isEdgeChar c then
        match collect verbose isEdgeChar (c :: inner) with
        | (name, '\x7d' :: after) =>
          match String.ofList name with
          | "start" => some (.word .start, after)
          | "end" => some (.word .stop, after)
          | "start-half" => some (.word .startHalf, after)
          | "end-half" => some (.word .stopHalf, after)
          | _ => none
        | _ => none
      else some (.word .boundary, input)
  | _ => some (.word .boundary, input)

/-- Characters that a backslash makes literal: all of ASCII but letters, digits and angles. -/
def isEscapable (c : Char) : Bool :=
  c.toNat < 128 && !c.isAlphanum && c != '<' && c != '>'

/-- What a backslash and the characters behind it stand for. -/
def escape? (verbose : Bool) : List Char → Option (Atom × List Char)
  | [] => none
  | c :: rest =>
    match c with
    | 'x' => hexEscape? verbose 2 rest
    | 'u' => hexEscape? verbose 4 rest
    | 'U' => hexEscape? verbose 8 rest
    | 'p' => setEscape? verbose false rest
    | 'P' => setEscape? verbose true rest
    | 'd' => some (.shorthand .digit false, rest)
    | 'D' => some (.shorthand .digit true, rest)
    | 's' => some (.shorthand .blank false, rest)
    | 'S' => some (.shorthand .blank true, rest)
    | 'w' => some (.shorthand .word false, rest)
    | 'W' => some (.shorthand .word true, rest)
    | 'a' => some (.literal '\x07' false, rest)
    | 'f' => some (.literal '\x0c' false, rest)
    | 't' => some (.literal '\t' false, rest)
    | 'n' => some (.literal '\n' false, rest)
    | 'r' => some (.literal '\r' false, rest)
    | 'v' => some (.literal '\x0b' false, rest)
    | 'A' => some (.textStart, rest)
    | 'z' => some (.textEnd, rest)
    | 'b' => boundaryEscape? verbose rest
    | 'B' => some (.word .inside, rest)
    | '<' => some (.word .start, rest)
    | '>' => some (.word .stop, rest)
    | _ => if isEscapable c then some (.literal c false, rest) else none

/-! Meaning under flags. -/

/-- The set with what is alike up to case added, where case is ignored. -/
def Flags.fold (flags : Flags) (set : CharSet) : CharSet :=
  if flags.ignoreCase then
    if flags.unicode then .folded set else .foldedAscii set
  else set

/-- Without the flag for Unicode a set may hold only ASCII, so its complement is refused. -/
def Flags.negate? (flags : Flags) (negated : Bool) (set : CharSet) : Option CharSet :=
  if negated && !flags.unicode then none else some (.negateIf negated set)

/-- A single character, where case is ignored with the ones alike. -/
def Flags.literal (flags : Flags) (c : Char) : CharSet :=
  if !flags.ignoreCase then .single c
  else if flags.unicode then
    if Unicode.Fold.alike c == [c] then .single c else .folded (.single c)
  else .foldedAscii (.single c)

def Atom.set? (flags : Flags) : Atom → Option CharSet
  | literal c byte =>
    if !flags.unicode && byte && c.toNat > 127 then none else some (flags.literal c)
  | dot =>
    if !flags.unicode then none
    else if flags.dotAll then some .all
    else if flags.crlf then some (.complement (.union (.single '\r') (.single '\n')))
    else some (.complement (.single '\n'))
  | shorthand kind negated => flags.negate? negated (kind.set flags.unicode)
  | named set negated => if flags.unicode then flags.negate? negated (flags.fold set) else none
  | _ => none

def Atom.look? (flags : Flags) : Atom → Option Look
  | textStart => some .textStart
  | textEnd => some .textEnd
  | lineStart =>
    some (if !flags.multiLine then .textStart
      else if flags.crlf then .lineStartCrlf else .lineStart)
  | lineEnd =>
    some (if !flags.multiLine then .textEnd else if flags.crlf then .lineEndCrlf else .lineEnd)
  | word edge => some (.word edge flags.unicode)
  | _ => none

def Atom.expr? (flags : Flags) (atom : Atom) : Option Expr :=
  match atom.look? flags with
  | some look => some (.look look)
  | none => (atom.set? flags).map .set

end Transclude.Pattern
