/-!
Globs, and which paths they match. A glob reads the bytes of a path from left to right; each of its
parts may stop at several points, and the path matches if some choice of them ends with the path.
-/

namespace Transclude

/-- A part of a glob. Only the parts that stand for directories cross a slash. -/
inductive Glob.Part where
  | literal (c : Char)
  /-- One byte. -/
  | one
  /-- Any number of bytes. -/
  | many
  /-- A byte of one of the ranges, or of none of them. -/
  | oneOf (negated : Bool) (ranges : List (Char × Char))
  /-- No directory, or any number of them with the slash behind them. -/
  | leading
  /-- A slash, or any number of directories with the slashes around them. -/
  | inner
  /-- A slash and all that follows. -/
  | trailing
  | either (branches : List (List Part))
  deriving Repr, Inhabited

structure Glob where
  parts : List Glob.Part
  deriving Repr, Inhabited

namespace Glob

def slash : UInt8 := 47

/-- The ranges of bytes that a range of characters stands for: the last byte of its first character
up to the first byte of its last one, and the bytes around these one by one. -/
def byteRanges (first last : Char) : List (UInt8 × UInt8) :=
  let singles (bytes : List UInt8) := bytes.map fun byte => (byte, byte)
  let lower := String.utf8EncodeChar first
  let upper := String.utf8EncodeChar last
  if first = last then singles lower
  else singles lower.dropLast ++ [(lower.getLastD 0, upper.headD 0)] ++ singles upper.tail

def inRanges (ranges : List (Char × Char)) (byte : UInt8) : Bool :=
  ranges.any fun (first, last) =>
    (byteRanges first last).any fun (lower, upper) => lower ≤ byte && byte ≤ upper

/-- What follows each slash. -/
def afterSlashes : List UInt8 → List (List UInt8)
  | [] => []
  | byte :: rest => if byte = slash then rest :: afterSlashes rest else afterSlashes rest

/-- What is left behind each number of bytes before the first slash. -/
def withinName : List UInt8 → List (List UInt8)
  | [] => [[]]
  | byte :: rest => (byte :: rest) :: if byte = slash then [] else withinName rest

/-- What is left behind each number of bytes. -/
def suffixes : List UInt8 → List (List UInt8)
  | [] => [[]]
  | byte :: rest => (byte :: rest) :: suffixes rest

mutual

/-- Whether a part stands for nothing at all, not even for the empty text. -/
def Part.isVoid : Part → Bool
  | .either branches => allVoid branches
  | _ => false

def isVoidBranch : List Part → Bool
  | [] => true
  | part :: rest => part.isVoid && isVoidBranch rest

def allVoid : List (List Part) → Bool
  | [] => true
  | branch :: rest => isVoidBranch branch && allVoid rest

end

mutual

/-- What may be left of some bytes behind a part. A void part takes nothing, and a void branch of
another part is no choice. -/
def Part.rests : Part → List UInt8 → List (List UInt8)
  | .literal c, bytes =>
    let written := String.utf8EncodeChar c
    if written.isPrefixOf bytes then [bytes.drop written.length] else []
  | .one, bytes =>
    match bytes with
    | byte :: rest => if byte = slash then [] else [rest]
    | [] => []
  | .many, bytes => withinName bytes
  | .oneOf negated ranges, bytes =>
    match bytes with
    | byte :: rest => if byte != slash && (inRanges ranges byte != negated) then [rest] else []
    | [] => []
  | .leading, bytes => bytes :: afterSlashes bytes
  | .inner, bytes =>
    match bytes with
    | byte :: rest => if byte = slash then rest :: afterSlashes rest else []
    | [] => []
  | .trailing, bytes =>
    match bytes with
    | byte :: rest => if byte = slash then suffixes rest else []
    | [] => []
  | .either branches, bytes =>
    if allVoid branches then [bytes] else branchRests branches bytes

/-- What may be left of one of some bytes behind some parts, each possibility once. -/
def rests : List Part → List (List UInt8) → List (List UInt8)
  | [], held => held
  | part :: others, held => rests others (held.map part.rests).flatten.eraseDups

def branchRests : List (List Part) → List UInt8 → List (List UInt8)
  | [], _ => []
  | branch :: others, bytes =>
    (if isVoidBranch branch then [] else rests branch [bytes]) ++ branchRests others bytes

end

/-- Whether a glob matches the whole of a path. Directories alone match every path. -/
def isMatch (glob : Glob) (path : String) : Bool :=
  match glob.parts with
  | [.leading] => true
  | parts => (rests parts [path.toUTF8.data.toList]).contains []

end Glob

end Transclude
