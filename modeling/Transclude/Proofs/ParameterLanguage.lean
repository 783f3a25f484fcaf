import Transclude.Parameter.Expression
import Transclude.Proofs.Numerals
import Transclude.Proofs.ParameterTokens

/-!
The parameter language as a grammar. A parameter is one token that is a value by itself, or a record
of fields in braces; which texts these are, and what they stand for, is said here without a reader.
The reader accepts these texts and no others.
-/

namespace Transclude.Parameter

namespace Token

def numeral : List Char → Int
  | '-' :: digits => -(Nat.ofDigitChars 10 digits 0 : Int)
  | digits => Nat.ofDigitChars 10 digits 0

/-- A token that is a parameter by itself: quoted text that can be decoded, an integer of any length
or a word. -/
inductive IsScalar : Token → String → Prop
  | doubleQuoted {text : List Char} {value : String} :
    Quoted.decode? text = some value → IsScalar (doubleQuoted text) value
  | singleQuoted {text : List Char} {value : String} :
    Quoted.decode? text = some value → IsScalar (singleQuoted text) value
  | integer {text : List Char} : IsScalar (integer text) (String.ofList text)
  | word {text : List Char} : IsScalar (word text) (String.ofList text)

/-- A token that is the key of a field: quoted text that can be decoded, or a word. -/
inductive IsKey : Token → String → Prop
  | doubleQuoted {text : List Char} {value : String} :
    Quoted.decode? text = some value → IsKey (doubleQuoted text) value
  | singleQuoted {text : List Char} {value : String} :
    Quoted.decode? text = some value → IsKey (singleQuoted text) value
  | word {text : List Char} : IsKey (word text) (String.ofList text)

/-- A token that is the value of a field: quoted text that can be decoded, a word, or an integer of
64 bits with a sign. -/
inductive IsValue : Token → Value → Prop
  | doubleQuoted {text : List Char} {value : String} :
    Quoted.decode? text = some value → IsValue (doubleQuoted text) (.text value)
  | singleQuoted {text : List Char} {value : String} :
    Quoted.decode? text = some value → IsValue (singleQuoted text) (.text value)
  | integer {text : List Char} :
    -Int.pow 2 63 ≤ numeral text → numeral text < Int.pow 2 63 →
      IsValue (integer text) (.integer (numeral text))
  | word {text : List Char} : IsValue (word text) (.text (String.ofList text))

theorem scalar?_eq_some_iff {token : Token} {text : String} :
    token.scalar? = some text ↔ token.IsScalar text := by
  constructor
  · intro read
    cases token with
    | doubleQuoted _ => exact .doubleQuoted read
    | singleQuoted _ => exact .singleQuoted read
    | integer _ => cases read; exact .integer
    | word _ => cases read; exact .word
    | braceOpen | braceClose | colon | comma | blank _ => cases read
  · intro scalar
    cases scalar with
    | doubleQuoted decoded | singleQuoted decoded => exact decoded
    | integer | word => rfl

theorem key?_eq_some_iff {token : Token} {key : String} :
    token.key? = some key ↔ token.IsKey key := by
  constructor
  · intro read
    cases token with
    | doubleQuoted _ => exact .doubleQuoted read
    | singleQuoted _ => exact .singleQuoted read
    | word _ => cases read; exact .word
    | braceOpen | braceClose | colon | comma | blank _ | integer _ => cases read
  · intro named
    cases named with
    | doubleQuoted decoded | singleQuoted decoded => exact decoded
    | word => rfl

theorem integerValue?_of_isWritten {text : List Char} (written : (integer text).IsWritten) :
    integerValue? text = some (numeral text) := by
  rcases mem_signed.mp written with unsigned | ⟨unsigned, member, same⟩
  · obtain ⟨c, body, same, digit, all⟩ := mem_run.mp unsigned
    cases (show text = c :: body from same)
    have number := Digits.number?_of_digits (List.cons_ne_nil c body)
      (List.forall_mem_cons.mpr ⟨digit, all⟩)
    have no_sign : c ≠ '-' := by
      rintro rfl
      revert digit; decide
    rw [integerValue?, numeral, number]
    · rfl
    · exact fun _ opens => no_sign (List.cons.inj opens).1
    · exact fun _ opens => no_sign (List.cons.inj opens).1
  · obtain ⟨c, body, rfl, digit, all⟩ := mem_run.mp member
    cases (show text = '-' :: c :: body from same)
    have number := Digits.number?_of_digits (List.cons_ne_nil c body)
      (List.forall_mem_cons.mpr ⟨digit, all⟩)
    rw [integerValue?, number]
    rfl

theorem fits_iff (number : Int) :
    fits number = true ↔ -Int.pow 2 63 ≤ number ∧ number < Int.pow 2 63 := by
  rw [fits, Bool.and_eq_true, decide_eq_true_iff, decide_eq_true_iff]

theorem value?_eq_some_iff {token : Token} {value : Value} (written : token.IsWritten) :
    token.value? = some value ↔ token.IsValue value := by
  constructor
  · intro read
    cases token with
    | doubleQuoted _ =>
      obtain ⟨text, decoded, rfl⟩ := Option.map_eq_some_iff.mp read
      exact .doubleQuoted decoded
    | singleQuoted _ =>
      obtain ⟨text, decoded, rfl⟩ := Option.map_eq_some_iff.mp read
      exact .singleQuoted decoded
    | integer _ =>
      rw [value?, integerValue?_of_isWritten written] at read
      obtain ⟨number, kept, rfl⟩ := Option.map_eq_some_iff.mp read
      obtain ⟨same, bounds⟩ := Option.filter_eq_some_iff.mp kept
      cases same
      have ⟨low, high⟩ := (fits_iff _).mp bounds
      exact .integer low high
    | word _ => cases read; exact .word
    | braceOpen | braceClose | colon | comma | blank _ => cases read
  · intro held
    cases held with
    | doubleQuoted decoded | singleQuoted decoded =>
      rw [value?, decoded]
      rfl
    | word => rfl
    | integer low high =>
      rw [value?, integerValue?_of_isWritten written,
        Option.filter_eq_some_iff.mpr ⟨rfl, (fits_iff _).mpr ⟨low, high⟩⟩]
      rfl

end Token

namespace Expression

def fieldTokens (field : Token × Token) : List Token := [field.1, .colon, field.2]

/-- What follows the opening brace of a record: the fields with single commas between them, behind
the last of which there may be one more, and the closing brace. -/
def innerTokens (fields : List (Token × Token)) (trailing : Bool) : List Token :=
  [Token.comma].intercalate (fields.map fieldTokens) ++ (if trailing then [.comma] else []) ++
    [.braceClose]

def IsField (field : Token × Token) (held : String × Value) : Prop :=
  field.1.IsKey held.1 ∧ field.2.IsValue held.2

/-- The expression that a list of tokens writes. -/
inductive Writes : List Token → Expression → Prop
  | scalar {token : Token} {text : String} : token.IsScalar text → Writes [token] (.scalar text)
  | record {fields : List (Token × Token)} {trailing : Bool} {record : Record} :
    (trailing = true → fields ≠ []) → fields.Forall₂ IsField record →
      Writes (.braceOpen :: innerTokens fields trailing) (.record record)

theorem innerTokens_singleton (field : Token × Token) (trailing : Bool) :
    innerTokens [field] trailing =
      field.1 :: .colon :: field.2 :: (if trailing then [.comma, .braceClose] else [.braceClose]) := by
  cases trailing <;> rfl

theorem innerTokens_cons_cons (field next : Token × Token) (rest : List (Token × Token))
    (trailing : Bool) :
    innerTokens (field :: next :: rest) trailing =
      field.1 :: .colon :: field.2 :: .comma :: innerTokens (next :: rest) trailing := by
  simp [innerTokens, fieldTokens, List.intercalate]

/-- A record is read from the tokens of its fields. -/
theorem fields?_innerTokens {fields : List (Token × Token)} {trailing : Bool} {record : Record}
    (written : ∀ token ∈ innerTokens fields trailing, token.IsWritten)
    (ended : trailing = true → fields ≠ []) (held : fields.Forall₂ IsField record) :
    fields? (innerTokens fields trailing) = some record := by
  induction held with
  | nil =>
    cases trailing with
    | false => rfl
    | true => exact absurd rfl (ended rfl)
  | @cons field binding fields record here others ih =>
    obtain ⟨key, value⟩ := binding
    obtain ⟨named, valued⟩ := here
    cases fields with
    | nil =>
      cases others
      rw [innerTokens_singleton] at written ⊢
      have read := (Token.value?_eq_some_iff (written field.2 (by simp))).mpr valued
      rw [fields?, Token.key?_eq_some_iff.mpr named, read]
      cases trailing <;> rfl
    | cons next rest =>
      rw [innerTokens_cons_cons] at written ⊢
      have read := (Token.value?_eq_some_iff (written field.2 (by simp))).mpr valued
      have later := ih (fun token member => written token (by simp [member]))
        fun _ => List.cons_ne_nil next rest
      rw [fields?, Token.key?_eq_some_iff.mpr named, read]
      show (fields? (innerTokens (next :: rest) trailing)).map _ = _
      rw [later]
      rfl

/-- Whatever is read as the fields of a record has the tokens of fields. -/
theorem exists_fields_of_fields? {tokens : List Token} {record : Record}
    (written : ∀ token ∈ tokens, token.IsWritten) (read : fields? tokens = some record) :
    ∃ fields trailing, tokens = innerTokens fields trailing ∧ (trailing = true → fields ≠ []) ∧
      fields.Forall₂ IsField record := by
  fun_induction fields? tokens generalizing record with
  | case1 =>
    cases read
    exact ⟨[], false, rfl, fun trailing => (Bool.false_ne_true trailing).elim, .nil⟩
  | case2 keyToken valueToken rest ih =>
    obtain ⟨key, named, read⟩ := Option.bind_eq_some_iff.mp read
    obtain ⟨value, valued, read⟩ := Option.bind_eq_some_iff.mp read
    have here : IsField (keyToken, valueToken) (key, value) :=
      ⟨Token.key?_eq_some_iff.mp named,
        (Token.value?_eq_some_iff (written valueToken (by simp))).mp valued⟩
    split at read
    · cases read
      exact ⟨[(keyToken, valueToken)], false, rfl,
        fun trailing => (Bool.false_ne_true trailing).elim, .cons here .nil⟩
    · next more =>
      obtain ⟨others, later, rfl⟩ := Option.map_eq_some_iff.mp read
      obtain ⟨fields, trailing, rfl, ended, held⟩ :=
        ih (fun token member => written token (by simp [member])) later
      cases fields with
      | nil =>
        -- nothing but the closing brace follows the comma, which then is the last one
        cases trailing with
        | true => exact absurd rfl (ended rfl)
        | false =>
          exact ⟨[(keyToken, valueToken)], true, rfl, fun _ => List.cons_ne_nil _ _, .cons here held⟩
      | cons next rest =>
        refine ⟨(keyToken, valueToken) :: next :: rest, trailing, ?_, fun _ => List.cons_ne_nil _ _,
          .cons here held⟩
        rw [innerTokens_cons_cons]
    · cases read
  | case3 => cases read

/-- Tokens are read as the expression that they write. -/
theorem ofTokens?_eq_some_iff {tokens : List Token} {expression : Expression}
    (written : ∀ token ∈ tokens, token.IsWritten) :
    ofTokens? tokens = some expression ↔ Writes tokens expression := by
  constructor
  · intro read
    unfold ofTokens? at read
    split at read
    · next rest =>
      obtain ⟨record, inside, rfl⟩ := Option.map_eq_some_iff.mp read
      obtain ⟨fields, trailing, rfl, ended, held⟩ :=
        exists_fields_of_fields? (List.forall_mem_cons.mp written).2 inside
      exact .record ended held
    · obtain ⟨text, single, rfl⟩ := Option.map_eq_some_iff.mp read
      exact .scalar (Token.scalar?_eq_some_iff.mp single)
    · cases read
  · intro writes
    cases writes with
    | @scalar token text single =>
      have read := Token.scalar?_eq_some_iff.mpr single
      cases single with
      | doubleQuoted _ | singleQuoted _ =>
        rw [ofTokens?, read]
        · rfl
        · exact Token.noConfusion
      | integer | word => rfl
    | record ended held =>
      rw [ofTokens?, fields?_innerTokens (List.forall_mem_cons.mp written).2 ended held]
      rfl

/-- The tokens into which a text splits, without the blanks. -/
def significant (tokens : List Token) : List Token := tokens.filter fun token => !token.isBlank

end Expression

theorem Token.isWritten_of_splits {input : List Char} {tokens : List Token}
    (splits : Token.Splits input tokens) : ∀ token ∈ tokens, token.IsWritten := by
  induction splits with
  | nil => exact List.forall_mem_nil _
  | cons longest _ ih => exact List.forall_mem_cons.mpr ⟨longest.written, ih⟩

/-- A field has the value of its last occurrence. -/
theorem Record.get?_eq_some_iff {record : Record} {key : String} {value : Value} :
    record.get? key = some value ↔
      ∃ before after, record = before ++ (key, value) :: after ∧ ∀ field ∈ after, field.1 ≠ key := by
  rw [Record.get?, Option.map_eq_some_iff]
  constructor
  · rintro ⟨⟨name, held⟩, found, rfl⟩
    obtain ⟨named, after, before, split, others⟩ := List.find?_eq_some_iff_append.mp found
    cases (beq_iff_eq.mp named : name = key)
    refine ⟨before.reverse, after.reverse, ?_, ?_⟩
    · rw [List.reverse_eq_append_iff.mp split, List.reverse_cons, List.append_assoc]
      rfl
    · intro field member same
      have other := others field (List.mem_reverse.mp member)
      simp [same] at other
  · rintro ⟨before, after, rfl, others⟩
    refine ⟨(key, value), List.find?_eq_some_iff_append.mpr ⟨beq_self_eq_true key, after.reverse,
      before.reverse, by simp, ?_⟩, rfl⟩
    intro field member
    simpa using others field (List.mem_reverse.mp member)

namespace Expression

/-- A text is a parameter of the language exactly if it splits into tokens that write one, and a
record that it writes holds for each key the value of its last field. -/
theorem evaluate?_iff_writes (source : String) :
    (∀ expression, evaluate? source = some expression ↔
      ∃ tokens, Token.Splits source.toList tokens ∧ Writes (significant tokens) expression) ∧
    (∀ record, evaluate? source = some (.record record) → ∀ key value,
      record.get? key = some value ↔
        ∃ before after, record = before ++ (key, value) :: after ∧
          ∀ field ∈ after, field.1 ≠ key) := by
  refine ⟨fun expression => ?_, fun record _ key value => Record.get?_eq_some_iff⟩
  rw [evaluate?, Token.significant?, Option.bind_eq_some_iff]
  constructor
  · rintro ⟨_, scanned, read⟩
    obtain ⟨tokens, found, rfl⟩ := Option.map_eq_some_iff.mp scanned
    have splits := Token.scan?_eq_some_iff.mp found
    have written := Token.isWritten_of_splits splits
    exact ⟨tokens, splits, (ofTokens?_eq_some_iff fun token member =>
      written token (List.mem_of_mem_filter member)).mp read⟩
  · rintro ⟨tokens, splits, writes⟩
    have written := Token.isWritten_of_splits splits
    exact ⟨significant tokens,
      Option.map_eq_some_iff.mpr ⟨tokens, Token.scan?_eq_some_iff.mpr splits, rfl⟩,
      (ofTokens?_eq_some_iff fun token member =>
        written token (List.mem_of_mem_filter member)).mpr writes⟩

end Expression

end Transclude.Parameter
