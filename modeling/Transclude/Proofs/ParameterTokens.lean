import Mathlib.Computability.Language
import Mathlib.Data.List.TakeWhile
import Transclude.Parameter.Token

/-!
The tokens of a parameter. Each kind of token is a language, and a text is split at each place by
the longest token that can stand there. The scan of a text finds this split, which is the only one.
-/

namespace Transclude.Parameter.Token

open scoped Computability

/-- The texts of one character of a class. -/
def one (accepts : Char → Bool) : Language Char := {text | ∃ c, accepts c = true ∧ text = [c]}

/-- What may stand between two quotes: a character other than the quote and a backslash, or a
backslash with a character other than a line end. -/
def quotedItem (quote : Char) : Language Char :=
  one (fun c => c != quote && c != '\\') + {['\\']} * one (· != '\n')

/-- The texts that tokens of each kind have. -/
def language : Token → Language Char
  | braceOpen => {['\x7b']}
  | braceClose => {['\x7d']}
  | colon => {[':']}
  | comma => {[',']}
  | blank _ => one isBlankChar * (one isBlankChar)∗
  | doubleQuoted _ => {['"']} * ((quotedItem '"')∗ * {['"']})
  | singleQuoted _ => {['\'']} * ((quotedItem '\'')∗ * {['\'']})
  | integer _ => (1 + {['-']}) * (one Char.isDigit * (one Char.isDigit)∗)
  | word _ => one isWordStart * (one isWordChar)∗

/-- A token with a text of its kind. -/
def IsWritten (token : Token) : Prop := token.text ∈ token.language

/-- The longest token of any kind with which a text can begin, and what follows it. -/
structure IsLongest (token : Token) (input after : List Char) : Prop where
  written : token.IsWritten
  split : input = token.text ++ after
  longest : ∀ (other : Token) (rest : List Char), other.IsWritten → input = other.text ++ rest →
    other.text.length ≤ token.text.length

/-- A text cut into tokens, of which each is the longest that can stand at its place. -/
inductive Splits : List Char → List Token → Prop
  | nil : Splits [] []
  | cons {token : Token} {input after : List Char} {tokens : List Token} :
    token.IsLongest input after → Splits after tokens → Splits input (token :: tokens)

theorem mem_many {accepts : Char → Bool} {text : List Char} :
    text ∈ (one accepts)∗ ↔ ∀ c ∈ text, accepts c = true := by
  rw [Language.mem_kstar]
  constructor
  · rintro ⟨singles, rfl, all⟩ c member
    obtain ⟨single, here, inside⟩ := List.mem_flatten.mp member
    obtain ⟨d, accepted, rfl⟩ := all single here
    rwa [List.mem_singleton.mp inside]
  · intro all
    refine ⟨text.map fun c => [c], (List.flatMap_singleton' text).symm, ?_⟩
    rw [List.forall_mem_map]
    exact fun c member => ⟨c, all c member, rfl⟩

theorem mem_run {first continues : Char → Bool} {text : List Char} :
    text ∈ one first * (one continues)∗ ↔
      ∃ c body, text = c :: body ∧ first c = true ∧ ∀ d ∈ body, continues d = true := by
  rw [Language.mem_mul]
  constructor
  · rintro ⟨_, ⟨c, accepted, rfl⟩, body, many, rfl⟩
    exact ⟨c, body, rfl, accepted, mem_many.mp many⟩
  · rintro ⟨c, body, rfl, accepted, all⟩
    exact ⟨[c], ⟨c, accepted, rfl⟩, body, mem_many.mpr all, rfl⟩

/-- A number is a run of digits, before which a minus may stand. -/
theorem mem_signed {digits : Language Char} {text : List Char} :
    text ∈ (1 + {['-']}) * digits ↔
      text ∈ digits ∨ ∃ body ∈ digits, text = '-' :: body := by
  rw [add_mul, one_mul, Language.mem_add, Language.mem_mul]
  refine or_congr_right ?_
  constructor
  · rintro ⟨_, rfl, body, member, rfl⟩
    exact ⟨body, member, rfl⟩
  · rintro ⟨body, member, rfl⟩
    exact ⟨['-'], rfl, body, member, rfl⟩

theorem mem_quoted {quote : Char} {inner : Language Char} {text : List Char} :
    text ∈ ({[quote]} : Language Char) * inner ↔ ∃ body ∈ inner, text = quote :: body := by
  rw [Language.mem_mul]
  constructor
  · rintro ⟨_, rfl, body, member, rfl⟩
    exact ⟨body, member, rfl⟩
  · rintro ⟨body, member, rfl⟩
    exact ⟨[quote], rfl, body, member, rfl⟩

theorem mem_closed {items : Language Char} {quote : Char} {body : List Char} :
    body ∈ items∗ * ({[quote]} : Language Char) ↔
      ∃ parts : List (List Char), body = parts.flatten ++ [quote] ∧ ∀ part ∈ parts, part ∈ items := by
  rw [Language.mem_mul]
  constructor
  · rintro ⟨_, ⟨parts, rfl, all⟩, _, rfl, rfl⟩
    exact ⟨parts, rfl, all⟩
  · rintro ⟨parts, rfl, all⟩
    exact ⟨_, ⟨parts, rfl, all⟩, _, rfl, rfl⟩

theorem append_mem_closed {items : Language Char} {quote : Char} {item body : List Char}
    (here : item ∈ items) (closed : body ∈ items∗ * ({[quote]} : Language Char)) :
    item ++ body ∈ items∗ * ({[quote]} : Language Char) := by
  obtain ⟨parts, rfl, all⟩ := mem_closed.mp closed
  refine mem_closed.mpr ⟨item :: parts, ?_, List.forall_mem_cons.mpr ⟨here, all⟩⟩
  rw [List.flatten_cons, List.append_assoc]

theorem closeQuote_plain {quote c : Char} (plain : c ≠ '\\') (rest : List Char) :
    closeQuote quote (c :: rest) =
      if c = quote then some ([c], rest)
      else (closeQuote quote rest).map fun (body, after) => (c :: body, after) := by
  rw [closeQuote]
  · exact fun same _ => plain same
  · exact fun _ _ same _ => plain same

/-- A quoted text is closed where the quote first stands outside of an escape. -/
theorem closeQuote_append {quote : Char} (other : quote ≠ '\\') {body : List Char}
    (closed : body ∈ (quotedItem quote)∗ * ({[quote]} : Language Char)) (rest : List Char) :
    closeQuote quote (body ++ rest) = some (body, rest) := by
  obtain ⟨parts, rfl, all⟩ := mem_closed.mp closed
  clear closed
  induction parts with
  | nil =>
    rw [List.flatten_nil, List.nil_append, List.singleton_append, closeQuote_plain other,
      if_pos rfl]
  | cons part parts ih =>
    rw [List.forall_mem_cons] at all
    rw [List.flatten_cons]
    rcases all.1 with ⟨c, accepted, rfl⟩ | escaped
    · have ⟨no_quote, plain⟩ : c ≠ quote ∧ c ≠ '\\' := by simpa using accepted
      simp only [List.cons_append, List.nil_append]
      rw [closeQuote_plain plain, if_neg no_quote, ih all.2]
      rfl
    · obtain ⟨_, rfl, _, ⟨c, accepted, rfl⟩, rfl⟩ := Language.mem_mul.mp escaped
      have inner : c ≠ '\n' := by simpa using accepted
      simp only [List.cons_append, List.nil_append]
      rw [closeQuote, if_neg inner, ih all.2]
      rfl

theorem mem_of_closeQuote {quote : Char} {input body after : List Char}
    (read : closeQuote quote input = some (body, after)) :
    body ∈ (quotedItem quote)∗ * ({[quote]} : Language Char) := by
  fun_induction closeQuote quote input generalizing body after with
  | case1 => cases read
  | case2 => cases read
  | case3 => cases read
  | case4 c rest inner ih =>
    obtain ⟨⟨more, tail⟩, later, same⟩ := Option.map_eq_some_iff.mp read
    cases same
    have escaped : ['\\', c] ∈ quotedItem quote :=
      .inr (Language.mem_mul.mpr ⟨['\\'], rfl, [c], ⟨c, by simpa using inner, rfl⟩, rfl⟩)
    exact append_mem_closed escaped (ih later)
  | case5 rest =>
    cases read
    exact mem_closed.mpr ⟨[], rfl, List.forall_mem_nil _⟩
  | case6 c rest last inner no_quote ih =>
    obtain ⟨⟨more, tail⟩, later, same⟩ := Option.map_eq_some_iff.mp read
    cases same
    have plain : c ≠ '\\' := by
      intro same
      cases rest with
      | nil => exact last same rfl
      | cons d rest => exact inner d rest same rfl
    have here : [c] ∈ quotedItem quote := .inl ⟨c, by simp [no_quote, plain], rfl⟩
    exact append_mem_closed here (ih later)

/-! The first character of a token tells its kind. -/

theorem punctuation?_eq_none {c : Char}
    (classed : isBlankChar c = true ∨ c.isDigit = true ∨ isWordStart c = true) :
    punctuation? c = none := by
  unfold punctuation?
  split
  all_goals first | rfl | (revert classed; decide)

theorem not_blank_of_classed {c : Char} (classed : c.isDigit = true ∨ isWordStart c = true) :
    isBlankChar c = false := by
  by_contra blank
  simp only [isBlankChar, Bool.not_eq_false, Bool.or_eq_true, beq_iff_eq] at blank
  rcases blank with ((rfl | rfl) | rfl) | rfl <;> revert classed <;> decide

theorem not_quote_of_classed {c : Char} (classed : c.isDigit = true ∨ isWordStart c = true) :
    c ≠ '"' ∧ c ≠ '\'' := by
  constructor <;> rintro rfl <;> revert classed <;> decide

theorem isAlpha_iff {c : Char} : c.isAlpha = true ↔
    (65 ≤ c.toNat ∧ c.toNat ≤ 90) ∨ (97 ≤ c.toNat ∧ c.toNat ≤ 122) := by
  unfold Char.isAlpha Char.isUpper Char.isLower
  simp only [Bool.or_eq_true, Bool.and_eq_true, decide_eq_true_eq, ge_iff_le,
    UInt32.le_iff_toNat_le]
  rfl

theorem not_digit_of_isWordStart {c : Char} (starts : isWordStart c = true) :
    c.isDigit = false ∧ c ≠ '-' := by
  constructor
  · rw [← Bool.not_eq_true, Char.isDigit_iff_toNat]
    rw [isWordStart, Bool.or_eq_true, isAlpha_iff, beq_iff_eq] at starts
    rintro ⟨low, high⟩
    rcases starts with letter | rfl
    · simp only [Char.reduceToNat] at low high
      omega
    · revert high; decide
  · rintro rfl
    revert starts; decide

theorem next?_blank {c : Char} (blank : isBlankChar c = true) (rest : List Char) :
    next? (c :: rest) = some (run .blank isBlankChar c rest) := by
  rw [next?, punctuation?_eq_none (.inl blank)]
  exact if_pos blank

theorem next?_doubleQuote (rest : List Char) :
    next? ('"' :: rest) = quoted? .doubleQuoted '"' rest := rfl

theorem next?_singleQuote (rest : List Char) :
    next? ('\'' :: rest) = quoted? .singleQuoted '\'' rest := rfl

theorem next?_digit {c : Char} (digit : c.isDigit = true) (rest : List Char) :
    next? (c :: rest) = some (run .integer Char.isDigit c rest) := by
  have ⟨not_double, not_single⟩ := not_quote_of_classed (.inl digit)
  rw [next?, punctuation?_eq_none (.inr (.inl digit))]
  dsimp only
  rw [if_neg (by simp [not_blank_of_classed (.inl digit)]), if_neg not_double, if_neg not_single,
    if_pos (by simp [digit])]

theorem next?_minus {d : Char} (digit : d.isDigit = true) (rest : List Char) :
    next? ('-' :: d :: rest) = some (run .integer Char.isDigit '-' (d :: rest)) := by
  have leads : ('-'.isDigit || ('-' == '-' && (d :: rest).head?.any Char.isDigit)) = true := by
    simp [digit]
  show (if ('-'.isDigit || ('-' == '-' && (d :: rest).head?.any Char.isDigit)) = true then _
    else _) = _
  rw [if_pos leads]

theorem next?_word {c : Char} (starts : isWordStart c = true) (rest : List Char) :
    next? (c :: rest) = some (run .word isWordChar c rest) := by
  have ⟨not_double, not_single⟩ := not_quote_of_classed (.inr starts)
  have ⟨not_digit, not_minus⟩ := not_digit_of_isWordStart starts
  rw [next?, punctuation?_eq_none (.inr (.inr starts))]
  dsimp only
  rw [if_neg (by simp [not_blank_of_classed (.inr starts)]), if_neg not_double, if_neg not_single,
    if_neg (by simp [not_digit, not_minus]), if_pos starts]

/-- A run takes up all that goes on with characters of its class. -/
theorem run_append {make : List Char → Token} {continues : Char → Bool} {body : List Char}
    (all : ∀ d ∈ body, continues d = true) (c : Char) (rest : List Char) :
    run make continues c (body ++ rest) =
      (make (c :: body ++ rest.takeWhile continues), rest.dropWhile continues) := by
  rw [run, List.takeWhile_append_of_pos all, List.dropWhile_append_of_pos all]
  rfl

/-- The characters with which a token goes on if they stand behind it. -/
def continues : Token → Char → Bool
  | blank _ => isBlankChar
  | integer _ => Char.isDigit
  | word _ => isWordChar
  | _ => fun _ => false

/-- A token with more characters at its end, if it is one that goes on. -/
def extend : Token → List Char → Token
  | blank text, more => blank (text ++ more)
  | integer text, more => integer (text ++ more)
  | word text, more => word (text ++ more)
  | token, _ => token

theorem extend_nil (token : Token) : token.extend [] = token := by
  cases token <;> simp [extend]

theorem takeWhile_never {α : Type} (input : List α) : input.takeWhile (fun _ => false) = [] :=
  List.takeWhile_eq_nil_iff.mpr fun _ => Bool.false_ne_true

theorem dropWhile_never {α : Type} (input : List α) : input.dropWhile (fun _ => false) = input :=
  List.dropWhile_eq_self_iff.mpr fun _ => Bool.false_ne_true

theorem text_extend (token : Token) (rest : List Char) :
    (token.extend (rest.takeWhile token.continues)).text =
      token.text ++ rest.takeWhile token.continues := by
  cases token with
  | blank _ | integer _ | word _ => rfl
  | braceOpen | braceClose | colon | comma | doubleQuoted _ | singleQuoted _ =>
    rw [show continues _ = fun _ => false from rfl, takeWhile_never, List.append_nil]
    rfl

/-- A token at the start of a text is found there, with all characters with which it goes on. -/
theorem IsWritten.next?_append {token : Token} (written : token.IsWritten) (rest : List Char) :
    next? (token.text ++ rest) =
      some (token.extend (rest.takeWhile token.continues), rest.dropWhile token.continues) := by
  cases token with
  | braceOpen | braceClose | colon | comma =>
    show some _ = some (_, rest.dropWhile fun _ => false)
    rw [dropWhile_never]
    rfl
  | blank text =>
    obtain ⟨c, body, same, blank, all⟩ := mem_run.mp written
    cases (show text = c :: body from same)
    show next? (c :: (body ++ rest)) = _
    rw [next?_blank blank, run_append all]
    rfl
  | doubleQuoted text =>
    obtain ⟨body, closed, same⟩ := mem_quoted.mp written
    cases (show text = '"' :: body from same)
    show next? ('"' :: (body ++ rest)) = some (_, rest.dropWhile fun _ => false)
    rw [next?_doubleQuote, quoted?, closeQuote_append (by decide) closed, dropWhile_never]
    rfl
  | singleQuoted text =>
    obtain ⟨body, closed, same⟩ := mem_quoted.mp written
    cases (show text = '\'' :: body from same)
    show next? ('\'' :: (body ++ rest)) = some (_, rest.dropWhile fun _ => false)
    rw [next?_singleQuote, quoted?, closeQuote_append (by decide) closed, dropWhile_never]
    rfl
  | integer text =>
    rcases mem_signed.mp written with unsigned | ⟨unsigned, digits, same⟩
    · obtain ⟨c, body, same, digit, all⟩ := mem_run.mp unsigned
      cases (show text = c :: body from same)
      show next? (c :: (body ++ rest)) = _
      rw [next?_digit digit, run_append all]
      rfl
    · obtain ⟨c, body, rfl, digit, all⟩ := mem_run.mp digits
      cases (show text = '-' :: c :: body from same)
      show next? ('-' :: c :: (body ++ rest)) = _
      rw [next?_minus digit, ← List.cons_append,
        run_append (List.forall_mem_cons.mpr ⟨digit, all⟩)]
      rfl
  | word text =>
    obtain ⟨c, body, same, starts, all⟩ := mem_run.mp written
    cases (show text = c :: body from same)
    show next? (c :: (body ++ rest)) = _
    rw [next?_word starts, run_append all]
    rfl

/-- What is found in front of a text that begins with a token of some length: a token that is no
shorter, and no other one of the same length. -/
def Covers (token : Token) (found : Option (Token × List Char)) : Prop :=
  ∃ longer after, found = some (longer, after) ∧ token.text.length ≤ longer.text.length ∧
    (token.text.length = longer.text.length → longer = token)

/-- A token at the start of a text is found there, or a longer one is. -/
theorem IsWritten.covers {token : Token} (written : token.IsWritten) (rest : List Char) :
    token.Covers (next? (token.text ++ rest)) := by
  refine ⟨_, _, written.next?_append rest, ?_, fun same => ?_⟩
  · rw [text_extend, List.length_append]
    exact Nat.le_add_right _ _
  · rw [text_extend, List.length_append, Nat.left_eq_add, List.length_eq_zero_iff] at same
    rw [same, extend_nil]

theorem isWritten_of_quoted {make : List Char → Token} {quote : Char} {rest after : List Char}
    {token : Token} (keeps : ∀ text, (make text).text = text)
    (kind : ∀ text, (make text).language =
      {[quote]} * ((quotedItem quote)∗ * ({[quote]} : Language Char)))
    (read : quoted? make quote rest = some (token, after)) : token.IsWritten := by
  obtain ⟨⟨body, tail⟩, closed, same⟩ := Option.map_eq_some_iff.mp read
  cases same
  rw [IsWritten, keeps, kind]
  exact mem_quoted.mpr ⟨body, mem_of_closeQuote closed, rfl⟩

theorem mem_takeWhile_run {first continues : Char → Bool} {c : Char} (accepted : first c = true)
    (rest : List Char) :
    c :: rest.takeWhile continues ∈ one first * (one continues)∗ :=
  mem_run.mpr ⟨c, _, rfl, accepted, fun _ => List.mem_takeWhile_imp⟩

/-- What is found has the text of a token. -/
theorem isWritten_of_next? {input after : List Char} {token : Token}
    (read : next? input = some (token, after)) : token.IsWritten := by
  cases input with
  | nil => cases read
  | cons c rest =>
    dsimp only [next?] at read
    split at read
    · next mark found =>
      cases read
      unfold punctuation? at found
      split at found <;> cases found <;> exact Set.mem_singleton _
    · repeat' split at read
      · next blank =>
        cases read
        exact mem_takeWhile_run blank rest
      · subst_vars
        exact isWritten_of_quoted (fun _ => rfl) (fun _ => rfl) read
      · subst_vars
        exact isWritten_of_quoted (fun _ => rfl) (fun _ => rfl) read
      · next number =>
        cases read
        rw [Bool.or_eq_true, Bool.and_eq_true, beq_iff_eq] at number
        rcases number with digit | ⟨rfl, follows⟩
        · exact mem_signed.mpr (.inl (mem_takeWhile_run digit rest))
        · cases rest with
          | nil => cases follows
          | cons d more =>
            have digit : d.isDigit = true := follows
            refine mem_signed.mpr (.inr ⟨_, mem_takeWhile_run digit more, ?_⟩)
            show '-' :: (d :: more).takeWhile Char.isDigit = _
            rw [List.takeWhile_cons_of_pos digit]
      · next starts =>
        cases read
        exact mem_takeWhile_run starts rest
      · cases read

/-- The token that is found at the start of a text is the longest that can stand there. -/
theorem next?_eq_some_iff {input after : List Char} {token : Token} :
    next? input = some (token, after) ↔ token.IsLongest input after := by
  constructor
  · intro read
    refine ⟨isWritten_of_next? read, next?_split read, fun other rest written split => ?_⟩
    obtain ⟨longer, tail, found, bound, -⟩ := written.covers rest
    rw [← split, read] at found
    cases found
    exact bound
  · rintro ⟨written, rfl, longest⟩
    obtain ⟨longer, tail, found, bound, same⟩ := written.covers after
    have cap := longest longer tail (isWritten_of_next? found) (next?_split found)
    cases same (Nat.le_antisymm bound cap)
    rw [found, List.append_cancel_left (next?_split found)]

/-- A text that begins with a token is scanned to this token and those of what follows it. -/
theorem scan?_of_next? {input after : List Char} {token : Token}
    (found : next? input = some (token, after)) :
    scan? input = (scan? after).map (token :: ·) := by
  have nonempty : input ≠ [] := by
    rintro rfl
    cases found
  rw [scan?, if_neg nonempty]
  split
  · next absent =>
    rw [found] at absent
    cases absent
  · next other tail read =>
    rw [found] at read
    cases read
    rfl

/-- A text is scanned to the tokens into which it splits, and to none if it does not. -/
theorem scan?_eq_some_iff {input : List Char} {tokens : List Token} :
    scan? input = some tokens ↔ Splits input tokens := by
  constructor
  · intro read
    fun_induction scan? input generalizing tokens with
    | case1 =>
      cases read
      exact .nil
    | case2 => cases read
    | case3 input nonempty token after found ih =>
      obtain ⟨others, later, rfl⟩ := Option.map_eq_some_iff.mp read
      exact .cons (next?_eq_some_iff.mp found) (ih later)
  · intro splits
    induction splits with
    | nil => rw [scan?, if_pos rfl]
    | cons longest _ ih =>
      rw [scan?_of_next? (next?_eq_some_iff.mpr longest), ih]
      rfl

end Transclude.Parameter.Token
