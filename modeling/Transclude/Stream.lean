/-!
What comes out of an opened file: some bytes, after which reading may fail. A stream is read either
line by line or as a whole.
-/

namespace Transclude

inductive IoError where
  | notFound
  | invalidText
  | isDirectory
  | notDirectory
  | nameTooLong
  | tooManyLinks
  | nulByte
  | other (message : String)
  deriving DecidableEq, Repr, Inhabited

def IoError.message : IoError → String
  | notFound => "No such file or directory (os error 2)"
  | invalidText => "stream did not contain valid UTF-8"
  | isDirectory => "Is a directory (os error 21)"
  | notDirectory => "Not a directory (os error 20)"
  | nameTooLong => "File name too long (os error 36)"
  | tooManyLinks => "Too many levels of symbolic links (os error 40)"
  | nulByte => "file name contained an unexpected NUL byte"
  | other message => message

structure Stream where
  bytes : List UInt8
  failure : Option IoError := none
  deriving DecidableEq, Repr, Inhabited

namespace Stream

def lineEnd : UInt8 := 10

/-- The lines of a byte sequence, each with its line end; the last one may have none. -/
def byteLines (bytes : List UInt8) : List (List UInt8) :=
  if bytes = [] then []
  else
    match _rest : bytes.dropWhile (· != lineEnd) with
    | [] => [bytes]
    | stop :: after => (bytes.takeWhile (· != lineEnd) ++ [stop]) :: byteLines after
termination_by bytes.length
decreasing_by
  have shorter := (List.dropWhile_suffix (l := bytes) (· != lineEnd)).length_le
  rw [_rest, List.length_cons] at shorter
  omega

def decode (bytes : List UInt8) : Except IoError String :=
  match String.fromUTF8? ⟨bytes.toArray⟩ with
  | some text => .ok text
  | none => .error .invalidText

/-- Where the bytes end: in the failure, if there is one. -/
def atEnd (failure : Option IoError) : Except IoError Unit :=
  match failure with
  | some error => .error error
  | none => .ok ()

/-- Reads one line after the other: a line that has its end is decoded before any later failure
shows, while a last line without one is decoded only when the stream ends well. -/
def readLines (failure : Option IoError) : List (List UInt8) → Except IoError (List String)
  | [] => (atEnd failure).map fun _ => []
  | line :: rest => do
    if line.getLast? != some lineEnd then atEnd failure
    let text ← decode line
    let others ← readLines failure rest
    return text :: others

def lines (stream : Stream) : Except IoError (List String) :=
  readLines stream.failure (byteLines stream.bytes)

def text (stream : Stream) : Except IoError String := do
  atEnd stream.failure
  decode stream.bytes

def ofText (text : String) : Stream where
  bytes := text.toUTF8.data.toList

end Stream

end Transclude
