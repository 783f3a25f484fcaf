import Mathlib.Algebra.Group.Int.Defs
import Transclude.Proofs.QuotedText
import Transclude.Proofs.RecordFields

/-!
Targets written as parameters. A target is written as a record of its fields in any order, with keys
as words or in quotes and with blanks wherever someone likes to have some, or as a text in quotes if
nothing but its first field is asked for. Whatever characters its texts have, it is read back.
-/

namespace Transclude

namespace Parameter

namespace Token

theorem isWritten_of_isMark {token : Token} (mark : token.isMark = true) : token.IsWritten := by
  cases token with
  | braceOpen | braceClose | colon | comma => exact Set.mem_singleton _
  | blank _ | doubleQuoted _ | singleQuoted _ | integer _ | word _ => cases mark

theorem isBlank_of_isMark {token : Token} (mark : token.isMark = true) : token.isBlank = false := by
  cases token with
  | braceOpen | braceClose | colon | comma => rfl
  | blank _ | doubleQuoted _ | singleQuoted _ | integer _ | word _ => cases mark

theorem isChain_mark {token : Token} (mark : token.isMark = true) {tokens : List Token}
    (chain : tokens.IsChain Apart) : (token :: tokens).IsChain Apart :=
  List.isChain_cons.mpr ⟨fun next _ => apart_of_isMark mark next, chain⟩

theorem isWritten_toDigits (n : Nat) : (integer (Nat.toDigits 10 n)).IsWritten := by
  have all : ∀ c ∈ Nat.toDigits 10 n, c.isDigit = true :=
    fun _ => Nat.isDigit_of_mem_toDigits (by decide) (by decide)
  obtain ⟨c, rest, same⟩ := List.exists_cons_of_ne_nil (Nat.toDigits_ne_nil (b := 10) (n := n))
  rw [same, List.forall_mem_cons] at all
  exact mem_signed.mpr (.inl (mem_run.mpr ⟨c, rest, same, all⟩))

theorem numeral_toDigits (n : Nat) : numeral (Nat.toDigits 10 n) = n := by
  cases same : Nat.toDigits 10 n with
  | nil => exact absurd same Nat.toDigits_ne_nil
  | cons c rest =>
    have digit : c.isDigit = true := Nat.isDigit_of_mem_toDigits (by decide) (by decide)
      (same ▸ List.mem_cons_self)
    have unsigned : c ≠ '-' := by
      rintro rfl
      revert digit; decide
    rw [numeral, ← same, Nat.ofDigitChars_ten_toDigits]
    exact fun _ opens => unsigned (List.cons.inj opens).1

/-- The characters of a word are neither quotes nor backslashes. -/
theorem plain_of_word {text : List Char} (written : (word text).IsWritten) :
    ∀ c ∈ text, c ≠ '\'' ∧ c ≠ '\\' := by
  obtain ⟨first, rest, same, starts, all⟩ := mem_run.mp written
  cases (show text = first :: rest from same)
  refine List.forall_mem_cons.mpr ⟨?_, fun c member => ?_⟩
  · constructor <;> rintro rfl <;> exact absurd starts (by decide)
  · have continued := all c member
    constructor <;> rintro rfl <;> exact absurd continued (by decide)

end Token

namespace Expression

open Token

theorem isChain_field (field : Token × Token) {mark : Token} (marks : mark.isMark = true)
    {tokens : List Token} (chain : (mark :: tokens).IsChain Apart) :
    (field.1 :: .colon :: field.2 :: mark :: tokens).IsChain Apart :=
  List.isChain_cons_cons.mpr ⟨apart_mark rfl field.1,
    isChain_mark rfl (List.isChain_cons_cons.mpr ⟨apart_mark marks field.2, chain⟩)⟩

/-- Between any two keys and values of a record there is a mark. -/
theorem isChain_innerTokens (fields : List (Token × Token)) (trailing : Bool) :
    (innerTokens fields trailing).IsChain Apart := by
  have last : [Token.braceClose].IsChain Apart := List.isChain_singleton _
  induction fields with
  | nil =>
    cases trailing with
    | false => exact last
    | true => exact isChain_mark rfl last
  | cons field fields ih =>
    cases fields with
    | nil =>
      rw [innerTokens_singleton]
      cases trailing with
      | false => exact isChain_field field rfl last
      | true => exact isChain_field field rfl (isChain_mark rfl last)
    | cons next rest =>
      rw [innerTokens_cons_cons]
      exact isChain_field field rfl (isChain_mark rfl ih)

/-- The tokens of a record are marks, keys and values. -/
theorem mem_innerTokens {fields : List (Token × Token)} {trailing : Bool} {token : Token}
    (member : token ∈ innerTokens fields trailing) :
    token.isMark = true ∨ ∃ field ∈ fields, token = field.1 ∨ token = field.2 := by
  induction fields with
  | nil =>
    have marks : token ∈ [Token.comma, .braceClose] := by
      cases trailing with
      | false => exact List.mem_cons_of_mem _ member
      | true => exact member
    grind [isMark]
  | cons field fields ih =>
    cases fields with
    | nil =>
      rw [innerTokens_singleton] at member
      cases trailing <;> grind [isMark]
    | cons next rest =>
      rw [innerTokens_cons_cons] at member
      grind [isMark]

end Expression

namespace Record

/-- A key as it may be written: as a word, or in quotes of either kind. -/
inductive SpellsKey (key : String) : Token → Prop
  | bare : SpellsKey key (.word key.toList)
  | doubleQuoted : SpellsKey key (.doubleQuoted (Quoted.write '"' key))
  | singleQuoted : SpellsKey key (.singleQuoted (Quoted.write '\'' key))

/-- A value as it is written: a text in double quotes, or a number in decimal digits. -/
inductive SpellsValue : Token → Value → Prop
  | text (text : String) : SpellsValue (.doubleQuoted (Quoted.write '"' text)) (.text text)
  | count (n : Nat) : SpellsValue (.integer (Nat.toDigits 10 n)) (.integer n)

/-- A field with its key and its value. -/
def SpellsField (tokens : Token × Token) (field : String × Value) : Prop :=
  SpellsKey field.1 tokens.1 ∧ SpellsValue tokens.2 field.2

/-- The text of a record: its fields between braces, with a comma behind each but the last, behind
which there may be one as well, and with any blanks around the tokens. -/
def IsText (record : Record) (text : String) : Prop :=
  ∃ fields trailing, (trailing = true → fields ≠ []) ∧ fields.Forall₂ SpellsField record ∧
    Token.Spells text.toList (.braceOpen :: Expression.innerTokens fields trailing)

variable {record : Record} {text : String}

theorem SpellsKey.isKey {key : String} {token : Token} (spells : SpellsKey key token)
    (named : (Token.word key.toList).IsWritten) : token.IsKey key := by
  cases spells with
  | bare =>
    have read : (Token.word key.toList).IsKey (String.ofList key.toList) := .word
    rwa [String.ofList_toList] at read
  | doubleQuoted => exact .doubleQuoted (Quoted.decode?_write_double key)
  | singleQuoted =>
    exact .singleQuoted ((Quoted.decode?_write_single_iff key).mpr (Token.plain_of_word named))

theorem SpellsKey.isWritten {key : String} {token : Token} (spells : SpellsKey key token)
    (named : (Token.word key.toList).IsWritten) : token.IsWritten ∧ token.isBlank = false := by
  cases spells with
  | bare => exact ⟨named, rfl⟩
  | doubleQuoted => exact ⟨Token.isWritten_doubleQuoted key, rfl⟩
  | singleQuoted => exact ⟨Token.isWritten_singleQuoted key, rfl⟩

/-- Numbers in records are limited to 64 bits with a sign. -/
theorem SpellsValue.isValue {value : Value} {token : Token} (spells : SpellsValue token value)
    (small : ∀ n, value = .integer n → n < 2 ^ 63) : token.IsValue value := by
  cases spells with
  | text text => exact .doubleQuoted (Quoted.decode?_write_double text)
  | count n =>
    have bound := small n rfl
    have width : Int.pow 2 63 = 2 ^ 63 := rfl
    rw [← Token.numeral_toDigits n]
    apply Token.IsValue.integer
    · rw [Token.numeral_toDigits]
      omega
    · rw [Token.numeral_toDigits]
      omega

theorem SpellsValue.isWritten {value : Value} {token : Token} (spells : SpellsValue token value) :
    token.IsWritten ∧ token.isBlank = false := by
  cases spells with
  | text text => exact ⟨Token.isWritten_doubleQuoted text, rfl⟩
  | count n => exact ⟨Token.isWritten_toDigits n, rfl⟩

theorem spells_fields {fields : List (Token × Token)} (spelled : fields.Forall₂ SpellsField record)
    (named : ∀ field ∈ record, (Token.word field.1.toList).IsWritten)
    (small : ∀ field ∈ record, ∀ n, field.2 = .integer n → n < 2 ^ 63) :
    fields.Forall₂ Expression.IsField record ∧
      ∀ field ∈ fields, ∀ token, token = field.1 ∨ token = field.2 →
        token.IsWritten ∧ token.isBlank = false := by
  induction spelled with
  | nil => exact ⟨.nil, List.forall_mem_nil _⟩
  | cons here others ih =>
    obtain ⟨key, value⟩ := here
    rw [List.forall_mem_cons] at named small
    obtain ⟨held, solid⟩ := ih named.2 small.2
    refine ⟨.cons ⟨key.isKey named.1, value.isValue small.1⟩ held,
      List.forall_mem_cons.mpr ⟨?_, solid⟩⟩
    rintro token (rfl | rfl)
    · exact key.isWritten named.1
    · exact value.isWritten

/-- The text of a record is read as this record. -/
theorem evaluate?_of_isText (isText : record.IsText text)
    (named : ∀ field ∈ record, (Token.word field.1.toList).IsWritten)
    (small : ∀ field ∈ record, ∀ n, field.2 = .integer n → n < 2 ^ 63) :
    Expression.evaluate? text = some (.record record) := by
  obtain ⟨fields, trailing, ended, spelled, laidOut⟩ := isText
  obtain ⟨held, solid⟩ := spells_fields spelled named small
  have tokens : ∀ token ∈ .braceOpen :: Expression.innerTokens fields trailing,
      token.IsWritten ∧ token.isBlank = false := by
    refine List.forall_mem_cons.mpr ⟨⟨Token.isWritten_of_isMark rfl, rfl⟩, fun token member => ?_⟩
    rcases Expression.mem_innerTokens member with mark | ⟨field, among, part⟩
    · exact ⟨Token.isWritten_of_isMark mark, Token.isBlank_of_isMark mark⟩
    · exact solid field among token part
  have written := fun token member => (tokens token member).1
  have solid := fun token member => (tokens token member).2
  rw [Expression.evaluate?_of_spells laidOut written solid
    (Token.isChain_mark rfl (Expression.isChain_innerTokens fields trailing))]
  exact (Expression.ofTokens?_eq_some_iff written).mpr (.record ended held)

/-- Every record of texts and numbers without a sign has a text. -/
theorem exists_isText (spelled : ∀ field ∈ record, ∃ token, SpellsValue token field.2) :
    ∃ text, record.IsText text := by
  have fields : ∃ fields : List (Token × Token), fields.Forall₂ SpellsField record := by
    induction record with
    | nil => exact ⟨[], .nil⟩
    | cons field record ih =>
      obtain ⟨⟨token, value⟩, others⟩ := List.forall_mem_cons.mp spelled
      obtain ⟨fields, held⟩ := ih others
      exact ⟨(.word field.1.toList, token) :: fields, .cons ⟨.bare, value⟩ held⟩
  obtain ⟨fields, held⟩ := fields
  obtain ⟨input, spells⟩ :=
    Token.exists_spells (.braceOpen :: Expression.innerTokens fields false)
  refine ⟨String.ofList input, fields, false, fun trailing => (Bool.false_ne_true trailing).elim,
    held, ?_⟩
  rw [String.toList_ofList]
  exact spells

end Record

end Parameter

namespace Directive

open Parameter

/-- The number of nodes to keep that a target asks for, as a field. -/
def skipBinding (skip : Option Nat) : Record := (skip.map fun n => ("skip", .integer n)).toList

/-- The fields that bind a directive to what it is to be asked for. -/
def bindings : (directive : Directive) → directive.Request → Record
  | mapfile, target => ("file", .text target.file) :: skipBinding target.skip
  | maprange, target =>
    ("file", .text target.file) :: ("name", .text target.name) :: skipBinding target.skip
  | range, name => [("name", .text name)]

/-- The number of nodes to keep that is asked for. -/
def skip? : (directive : Directive) → directive.Request → Option Nat
  | mapfile, target => target.skip
  | maprange, target => target.skip
  | range, _ => none

variable {directive : Directive} {request : directive.Request} {record : Record}

theorem nodup_bindings (directive : Directive) (request : directive.Request) :
    ((directive.bindings request).map Prod.fst).Nodup := by
  cases directive with
  | mapfile =>
    obtain ⟨file, skip⟩ := request
    cases skip <;> simp [bindings, skipBinding]
  | maprange =>
    obtain ⟨file, name, skip⟩ := request
    cases skip <;> simp [bindings, skipBinding]
  | range => exact List.nodup_singleton _

/-- The order of the fields does not matter, since no key occurs twice. -/
theorem binds_of_perm (perm : record.Perm (directive.bindings request)) :
    directive.Binds record request := by
  have distinct : (record.map Prod.fst).Nodup :=
    (perm.map Prod.fst).nodup_iff.mpr (nodup_bindings directive request)
  have bound : ∀ field ∈ directive.bindings request, record.get? field.1 = some field.2 :=
    fun field member => (Record.get?_eq_some_iff_mem distinct).mpr (perm.mem_iff.mpr member)
  have skips : ∀ skip, skipBinding skip ⊆ directive.bindings request →
      (skip = none → "skip" ∉ (directive.bindings request).map Prod.fst) →
        record.BindsSkip skip := by
    intro skip among absent
    cases skip with
    | none =>
      refine Record.get?_eq_none_iff.mpr fun member => absent rfl ?_
      exact (perm.map Prod.fst).mem_iff.mp member
    | some n => exact bound _ (among (List.mem_singleton_self _))
  cases directive with
  | mapfile =>
    obtain ⟨file, skip⟩ := request
    refine ⟨bound _ List.mem_cons_self, skips skip (List.subset_cons_self _ _) ?_⟩
    rintro rfl
    simp [bindings, skipBinding]
  | maprange =>
    obtain ⟨file, name, skip⟩ := request
    refine ⟨bound _ List.mem_cons_self, bound _ (List.mem_cons_of_mem _ List.mem_cons_self),
      skips skip (List.Subset.trans (List.subset_cons_self _ _) (List.subset_cons_self _ _)) ?_⟩
    rintro rfl
    simp [bindings, skipBinding]
  | range => exact bound _ (List.mem_singleton_self _)

theorem isWritten_key {key : String} (known : key ∈ ["file", "name", "skip"]) :
    (Token.word key.toList).IsWritten := by
  simp only [List.mem_cons, List.not_mem_nil, or_false] at known
  rcases known with rfl | rfl | rfl
  · exact Token.mem_run.mpr ⟨'f', ['i', 'l', 'e'], rfl, rfl, List.all_eq_true.mp rfl⟩
  · exact Token.mem_run.mpr ⟨'n', ['a', 'm', 'e'], rfl, rfl, List.all_eq_true.mp rfl⟩
  · exact Token.mem_run.mpr ⟨'s', ['k', 'i', 'p'], rfl, rfl, List.all_eq_true.mp rfl⟩

/-- What is bound for a directive is a text, or the number of nodes to keep. -/
theorem mem_bindings {field : String × Value} (member : field ∈ directive.bindings request) :
    field.1 ∈ ["file", "name", "skip"] ∧ ((∃ text, field.2 = .text text) ∨
      ∃ n : Nat, directive.skip? request = some n ∧ field.2 = .integer n) := by
  have ofSkip : ∀ skip, field ∈ skipBinding skip →
      ∃ n : Nat, skip = some n ∧ field = ("skip", .integer n) := by
    intro skip among
    cases skip with
    | none => cases among
    | some n => exact ⟨n, rfl, List.mem_singleton.mp among⟩
  cases directive with
  | mapfile =>
    rcases List.mem_cons.mp member with rfl | among
    · exact ⟨by simp, .inl ⟨_, rfl⟩⟩
    · obtain ⟨n, asked, rfl⟩ := ofSkip _ among
      exact ⟨by simp, .inr ⟨n, asked, rfl⟩⟩
  | maprange =>
    rcases List.mem_cons.mp member with rfl | among
    · exact ⟨by simp, .inl ⟨_, rfl⟩⟩
    rcases List.mem_cons.mp among with rfl | among
    · exact ⟨by simp, .inl ⟨_, rfl⟩⟩
    · obtain ⟨n, asked, rfl⟩ := ofSkip _ among
      exact ⟨by simp, .inr ⟨n, asked, rfl⟩⟩
  | range =>
    rw [List.mem_singleton.mp member]
    exact ⟨by simp, .inl ⟨_, rfl⟩⟩

/-- The text of a record that binds what is asked for, with its fields in any order, is decoded to
what is asked for, and there is such a text. -/
theorem decode_of_isText (small : ∀ skip ∈ directive.skip? request, skip < 2 ^ 63)
    (perm : record.Perm (directive.bindings request)) :
    (∃ text, record.IsText text) ∧
      ∀ text, record.IsText text → directive.decode text = .ok request := by
  have shape := fun field (member : field ∈ record) => mem_bindings (perm.mem_iff.mp member)
  refine ⟨Record.exists_isText fun field member => ?_, fun text isText => ?_⟩
  · rcases (shape field member).2 with ⟨written, same⟩ | ⟨n, -, same⟩
    · exact same ▸ ⟨_, .text written⟩
    · exact same ▸ ⟨_, .count n⟩
  · have evaluated := Record.evaluate?_of_isText isText
      (fun field member => isWritten_key (shape field member).1) fun field member n number => by
        rcases (shape field member).2 with ⟨written, same⟩ | ⟨count, asked, same⟩
        · cases number.symm.trans same
        · cases number.symm.trans same
          exact_mod_cast small count asked
    rw [decode_of_record evaluated, ofRecord_of_binds (binds_of_perm perm)]

end Directive

namespace Parameter

/-- A text in double quotes, as a parameter. -/
def quoted (text : String) : String := String.ofList (Quoted.write '"' text)

theorem reading_quoted (text : String) : reading (quoted text) = .scalar text := by
  rw [reading, quoted, Expression.evaluate?_doubleQuoted (Token.isWritten_doubleQuoted text),
    Quoted.decode?_write_double]
  rfl

theorem cutAtComma?_append {file : String} (whole : ',' ∉ file.toList) (name : String) :
    cutAtComma? (file ++ "," ++ name) = some (file, name) := by
  have before : ∀ c ∈ file.toList, (c != ',') = true := fun c member =>
    bne_iff_ne.mpr fun same => whole (same ▸ member)
  have shape : (file ++ "," ++ name).toList = file.toList ++ ',' :: name.toList := by simp
  rw [cutAtComma?, shape, List.dropWhile_append_of_pos before, List.takeWhile_append_of_pos before]
  simp

end Parameter

namespace Directive

open Parameter

/-- Whatever a directive can be asked for, with any characters in its texts and a number of nodes to
keep below 2 ^ 63, can be written as a record and is read back from each text of a record that binds
it. A text in double quotes alone asks for a file or for the regions of a name, and one with a comma
asks for a region of the file before its first comma. -/
theorem decode_written :
    (∀ (directive : Directive) (request : directive.Request),
      (∀ skip ∈ directive.skip? request, skip < 2 ^ 63) →
        ∀ record : Record, record.Perm (directive.bindings request) →
          (∃ text, record.IsText text) ∧
            ∀ text, record.IsText text → directive.decode text = .ok request) ∧
    (∀ file, FileTarget.decode (quoted file) = .ok { file, skip := none }) ∧
    (∀ name, decodeRegionName (quoted name) = .ok name) ∧
    ∀ file name : String, ',' ∉ file.toList →
      RegionTarget.decode (quoted (file ++ "," ++ name)) = .ok { file, name, skip := none } := by
  refine ⟨fun directive request small record perm => decode_of_isText small perm, fun file => ?_,
    fun name => ?_, fun file name whole => ?_⟩
  · rw [FileTarget.decode, reading_quoted]
  · rw [decodeRegionName, reading_quoted]
  · rw [RegionTarget.decode, reading_quoted]
    dsimp only
    rw [cutAtComma?_append whole]

/-- A file whose name looks like the rest of a record and a name of a backslash and a quote, with
the fields in disorder, and the same name behind a comma. -/
theorem tangledTarget_decoded :
    RegionTarget.decode
        "\x7b 'skip' :3,\tname\n:\"\\\\\\\"\" , \"file\":\"a\\\"\x7d,\n'\" ,\r\x7d" =
          .ok { file := "a\"\x7d,\n'", name := "\\\"", skip := some 3 } ∧
      RegionTarget.decode "\"a\\\"\x7d,\\\\\\\"\"" =
        .ok { file := "a\"\x7d", name := "\\\"", skip := none } := by
  obtain ⟨records, -, -, pairs⟩ := decode_written
  constructor
  · have read := records .maprange { file := "a\"\x7d,\n'", name := "\\\"", skip := some 3 }
      (by decide) [("skip", .integer 3), ("name", .text "\\\""), ("file", .text "a\"\x7d,\n'")]
      (by decide)
    apply read.2
    refine ⟨[(.singleQuoted "'skip'".toList, .integer ['3']),
        (.word "name".toList, .doubleQuoted "\"\\\\\\\"\"".toList),
        (.doubleQuoted "\"file\"".toList, .doubleQuoted "\"a\\\"\x7d,\n'\"".toList)],
      true, by decide, ?_, ?_⟩
    · exact .cons ⟨.singleQuoted, .count 3⟩ (.cons ⟨.bare, .text "\\\""⟩
        (.cons ⟨.doubleQuoted, .text "a\"\x7d,\n'"⟩ .nil))
    · exact @Token.spells_placed [([], .braceOpen), ([' '], .singleQuoted "'skip'".toList),
        ([' '], .colon), ([], .integer ['3']), ([], .comma), (['\t'], .word "name".toList),
        (['\n'], .colon), ([], .doubleQuoted "\"\\\\\\\"\"".toList), ([' '], .comma),
        ([' '], .doubleQuoted "\"file\"".toList), ([], .colon),
        ([], .doubleQuoted "\"a\\\"\x7d,\n'\"".toList), ([' '], .comma), (['\r'], .braceClose)] []
        (by simp [Token.isBlankChar]) nofun
  · exact pairs "a\"\x7d" "\\\"" (by decide)

end Directive

end Transclude
