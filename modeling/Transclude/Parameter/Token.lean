/-!
The tokens of the parameter language. Reading takes the longest token at each place; since the
kinds differ in their first character, this is the token that the first character announces.
-/

namespace Transclude.Parameter

/-- A token; quoted tokens keep their quotes, and every token keeps its characters. -/
inductive Token where
  | braceOpen
  | braceClose
  | colon
  | comma
  | blank (text : List Char)
  | doubleQuoted (text : List Char)
  | singleQuoted (text : List Char)
  | integer (text : List Char)
  | word (text : List Char)
  deriving DecidableEq, Repr, Inhabited

namespace Token

def text : Token → List Char
  | braceOpen => ['\x7b']
  | braceClose => ['\x7d']
  | colon => [':']
  | comma => [',']
  | blank text | doubleQuoted text | singleQuoted text | integer text | word text => text

def isBlankChar (c : Char) : Bool := c == ' ' || c == '\t' || c == '\r' || c == '\n'

def isWordStart (c : Char) : Bool := c.isAlpha || c == '_'

def isWordChar (c : Char) : Bool := c.isAlphanum || c == '_'

/-- The rest of a quoted token up to and with its closing quote, and what follows it. A backslash
takes the next character with it, which may not be a line end. -/
def closeQuote (quote : Char) : List Char → Option (List Char × List Char)
  | [] => none
  | ['\\'] => none
  | '\\' :: c :: rest =>
    if c = '\n' then none
    else (closeQuote quote rest).map fun (body, after) => ('\\' :: c :: body, after)
  | c :: rest =>
    if c = quote then some ([c], rest)
    else (closeQuote quote rest).map fun (body, after) => (c :: body, after)

theorem closeQuote_split (quote : Char) (input : List Char) :
    ∀ {body after : List Char}, closeQuote quote input = some (body, after) →
      input = body ++ after := by
  fun_induction closeQuote quote input with
  | case1 => simp
  | case2 => simp
  | case3 => simp
  | case4 c rest line ih =>
    intro body after h
    obtain ⟨⟨inner, tail⟩, read, same⟩ := Option.map_eq_some_iff.1 h
    cases same
    simp [ih read]
  | case5 rest =>
    intro body after h
    cases h
    simp
  | case6 c rest _ _ other ih =>
    intro body after h
    obtain ⟨⟨inner, tail⟩, read, same⟩ := Option.map_eq_some_iff.1 h
    cases same
    simp [ih read]

/-- The token that a single character is. -/
def punctuation? : Char → Option Token
  | '\x7b' => some braceOpen
  | '\x7d' => some braceClose
  | ':' => some colon
  | ',' => some comma
  | _ => none

/-- A token of a first character and all following characters of a class. -/
def run (make : List Char → Token) (continues : Char → Bool) (c : Char) (rest : List Char) :
    Token × List Char :=
  (make (c :: rest.takeWhile continues), rest.dropWhile continues)

/-- A quoted token whose first character has been read. -/
def quoted? (make : List Char → Token) (quote : Char) (rest : List Char) :
    Option (Token × List Char) :=
  (closeQuote quote rest).map fun (body, after) => (make (quote :: body), after)

/-- The token at the start of a text, and what follows it. -/
def next? : List Char → Option (Token × List Char)
  | [] => none
  | c :: rest =>
    match punctuation? c with
    | some token => some (token, rest)
    | none =>
      if isBlankChar c then some (run blank isBlankChar c rest)
      else if c = '"' then quoted? doubleQuoted '"' rest
      else if c = '\'' then quoted? singleQuoted '\'' rest
      else if c.isDigit || (c == '-' && rest.head?.any Char.isDigit) then
        some (run integer Char.isDigit c rest)
      else if isWordStart c then some (run word isWordChar c rest)
      else none

theorem punctuation?_text {c : Char} {token : Token} (h : punctuation? c = some token) :
    token.text = [c] := by
  unfold punctuation? at h
  split at h <;> cases h <;> rfl

theorem run_text {make : List Char → Token} (keeps : ∀ text, (make text).text = text)
    (continues : Char → Bool) (c : Char) (rest : List Char) :
    c :: rest = (run make continues c rest).1.text ++ (run make continues c rest).2 := by
  simp [run, keeps, List.takeWhile_append_dropWhile]

theorem quoted?_text {make : List Char → Token} (keeps : ∀ text, (make text).text = text)
    {quote : Char} {rest after : List Char} {token : Token}
    (h : quoted? make quote rest = some (token, after)) : quote :: rest = token.text ++ after := by
  obtain ⟨⟨body, tail⟩, read, same⟩ := Option.map_eq_some_iff.1 h
  cases same
  simp [keeps, closeQuote_split _ _ read]

/-- Nothing is lost between a token and what follows it. -/
theorem next?_split {input after : List Char} {token : Token}
    (h : next? input = some (token, after)) : input = token.text ++ after := by
  cases input with
  | nil => cases h
  | cons c rest =>
    dsimp only [next?] at h
    split at h
    · next mark found =>
      cases h
      simp [punctuation?_text found]
    · repeat' split at h
      · cases h; exact run_text (fun _ => rfl) isBlankChar c rest
      · subst_vars; exact quoted?_text (fun _ => rfl) h
      · subst_vars; exact quoted?_text (fun _ => rfl) h
      · cases h; exact run_text (fun _ => rfl) Char.isDigit c rest
      · cases h; exact run_text (fun _ => rfl) isWordChar c rest
      · cases h

/-- No token is empty. -/
theorem text_ne_nil {input after : List Char} {token : Token}
    (h : next? input = some (token, after)) : token.text ≠ [] := by
  cases input with
  | nil => cases h
  | cons c rest =>
    dsimp only [next?] at h
    split at h
    · next mark found =>
      cases h
      simp [punctuation?_text found]
    · repeat' split at h
      · cases h; exact List.cons_ne_nil _ _
      · obtain ⟨_, _, same⟩ := Option.map_eq_some_iff.1 h
        cases same; exact List.cons_ne_nil _ _
      · obtain ⟨_, _, same⟩ := Option.map_eq_some_iff.1 h
        cases same; exact List.cons_ne_nil _ _
      · cases h; exact List.cons_ne_nil _ _
      · cases h; exact List.cons_ne_nil _ _
      · cases h

theorem next?_shorter {input after : List Char} {token : Token}
    (h : next? input = some (token, after)) : after.length < input.length := by
  have split := congrArg List.length (next?_split h)
  have nonempty := List.length_pos_iff.2 (text_ne_nil h)
  simp only [List.length_append] at split
  omega

/-- The tokens of a whole text, or nothing when some part of it is no token. -/
def scan? (input : List Char) : Option (List Token) :=
  if input = [] then some []
  else
    match _step : next? input with
    | none => none
    | some (token, after) => (scan? after).map (token :: ·)
termination_by input.length
decreasing_by exact next?_shorter _step

def isBlank : Token → Bool
  | blank _ => true
  | _ => false

/-- The tokens that carry meaning. -/
def significant? (input : List Char) : Option (List Token) :=
  (scan? input).map (·.filter fun token => !token.isBlank)

end Token

end Transclude.Parameter
