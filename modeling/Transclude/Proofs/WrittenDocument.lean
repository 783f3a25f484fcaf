import Transclude.Proofs.Numerals
import Transclude.Proofs.WrittenStrings
import Transclude.Toml.Reader

/-!
Documents survive writing and reading. A document is made of tables, each a header and lines that
give keys their values; every line adds to what has been read exactly what it was written for.
-/

namespace Transclude.Toml

namespace Scalar

theorem extent_append {word : List Char} (scalar : ∀ c ∈ word, isScalarChar c = true)
    (rest : List Char) : extent (word ++ '\n' :: rest) = (word, '\n' :: rest) := by
  have stop : isScalarChar '\n' = false := rfl
  have taken : (word ++ '\n' :: rest).takeWhile isScalarChar = word := by
    rw [List.takeWhile_append_of_pos scalar, List.takeWhile_cons_of_neg (by simp [stop]),
      List.append_nil]
  have dropped : (word ++ '\n' :: rest).dropWhile isScalarChar = '\n' :: rest := by
    rw [List.dropWhile_append_of_pos scalar, List.dropWhile_cons_of_neg (by simp [stop])]
  dsimp only [extent]
  rw [taken, dropped]
  split
  · next same => cases same
  · rfl

theorem read?_append {word : List Char} {value : Value}
    (scalar : ∀ c ∈ word, isScalarChar c = true) (held : value? word = some value)
    (rest : List Char) : read? (word ++ '\n' :: rest) = some (value, '\n' :: rest) := by
  rw [read?, extent_append scalar, held]
  rfl

theorem digits?_of_digits {digits : List Char} (nonempty : digits ≠ [])
    (all : ∀ c ∈ digits, c.isDigit = true) : digits? 10 digits = some digits := by
  have is_digit {c : Char} (digit : c.isDigit = true) : Digits.isDigit 10 c = true := by
    rw [Digits.isDigit, Digits.digit?_of_isDigit digit]
    rfl
  induction digits with
  | nil => exact absurd rfl nonempty
  | cons c rest ih =>
    obtain ⟨here, others⟩ := List.forall_mem_cons.mp all
    cases rest with
    | nil => rw [digits?, if_pos (is_digit here)]
    | cons d rest =>
      have later := ih (List.cons_ne_nil d rest) others
      have no_underscore : d ≠ '_' := by
        rintro rfl
        exact absurd (others '_' List.mem_cons_self) (by decide)
      rw [digits?, if_pos (is_digit here), later]
      · rfl
      · exact fun none => absurd none (List.cons_ne_nil d rest)
      · exact fun _ same => no_underscore (List.cons.inj same).1

/-- What every digit of a number is not is in no number. -/
theorem not_mem_toDigits {c : Char} (other : c.isDigit = false) (n : Nat) :
    c ∉ Nat.toDigits 10 n := by
  intro member
  have digit := Nat.isDigit_of_mem_toDigits (by decide) (by decide) member
  exact Bool.false_ne_true (other.symm.trans digit)

theorem wholeDigits?_toDigits (n : Nat) :
    wholeDigits? (Nat.toDigits 10 n) = some (Nat.toDigits 10 n) := by
  have read := digits?_of_digits Nat.toDigits_ne_nil fun _ =>
    Nat.isDigit_of_mem_toDigits (b := 10) (n := n) (by decide) (by decide)
  unfold wholeDigits?
  rw [read]
  split
  · next zero =>
    cases Digits.toDigits_eq_zero_cons (Option.some.inj zero)
  · rfl

theorem sign_toDigits (n : Nat) : sign (Nat.toDigits 10 n) = (false, Nat.toDigits 10 n) := by
  unfold sign
  split
  · next same => exact absurd (same ▸ List.mem_cons_self) (not_mem_toDigits rfl n)
  · next same => exact absurd (same ▸ List.mem_cons_self) (not_mem_toDigits rfl n)
  · rfl

theorem integer?_toDigits (n : Nat) : integer? (Nat.toDigits 10 n) = some (n : Int) := by
  have marked {c : Char} {rest : List Char} (other : c.isDigit = false)
      (same : Nat.toDigits 10 n = '0' :: c :: rest) : False :=
    not_mem_toDigits other n (same ▸ List.mem_cons_of_mem _ List.mem_cons_self)
  unfold integer?
  split
  · next same => exact (marked rfl same).elim
  · next same => exact (marked rfl same).elim
  · next same => exact (marked rfl same).elim
  · rw [sign_toDigits]
    dsimp only
    rw [wholeDigits?_toDigits, Option.bind_some, Digits.number?_toDigits]
    rfl

theorem value?_toDigits (n : Nat) : value? (Nat.toDigits 10 n) = some (.integer n) := by
  have named {word : String} {c : Char} (other : c.isDigit = false) (member : c ∈ word.toList)
      (same : String.ofList (Nat.toDigits 10 n) = word) : False := by
    rw [← same, String.toList_ofList] at member
    exact not_mem_toDigits other n member
  unfold value?
  split
  · next same => exact (named (c := 't') rfl (by decide) same).elim
  · next same => exact (named (c := 'f') rfl (by decide) same).elim
  · rw [integer?_toDigits]
    rfl

theorem isScalarChar_of_mem_toDigits {c : Char} {n : Nat} (member : c ∈ Nat.toDigits 10 n) :
    isScalarChar c = true := by
  have digit := Nat.isDigit_of_mem_toDigits (by decide) (by decide) member
  simp [isScalarChar, Char.isAlphanum, digit]

theorem read?_count (n : Nat) (rest : List Char) :
    read? ((toString n).toList ++ '\n' :: rest) = some (.integer n, '\n' :: rest) := by
  rw [Nat.toString_eq_ofList_toDigits, String.toList_ofList]
  exact read?_append (fun _ => isScalarChar_of_mem_toDigits) (value?_toDigits n) rest

theorem read?_flag (flag : Bool) (rest : List Char) :
    read? ((Writer.boolean flag).toList ++ '\n' :: rest) = some (.boolean flag, '\n' :: rest) := by
  cases flag with
  | false => exact read?_append (List.all_eq_true.mp rfl) rfl rest
  | true => exact read?_append (List.all_eq_true.mp rfl) rfl rest

end Scalar

namespace Reader

/-- A text that is read as a value up to the end of its line. -/
structure Reads (text : String) (value : Value) : Prop where
  solid : ∀ rest, skipInline (text.toList ++ '\n' :: rest) = text.toList ++ '\n' :: rest
  read : ∀ fuel depth rest,
    value? (fuel + 1) depth (text.toList ++ '\n' :: rest) = some (value, '\n' :: rest)

theorem skipInline_cons {c : Char} (solid : Quoted.isInlineBlank c = false) (rest : List Char) :
    skipInline (c :: rest) = c :: rest :=
  List.dropWhile_cons_of_neg (by simp [solid])

theorem quote_of_read? {input rest : List Char} {text : String}
    (read : Quoted.read? input = some (text, rest)) :
    ∃ c more, (c = '"' ∨ c = '\'') ∧ input = c :: more := by
  unfold Quoted.read? at read
  split at read
  · exact ⟨_, _, .inl rfl, rfl⟩
  · exact ⟨_, _, .inr rfl, rfl⟩
  · unfold Quoted.readShort? at read
    split at read
    · exact ⟨_, _, .inl rfl, rfl⟩
    · exact ⟨_, _, .inr rfl, rfl⟩
    · cases read

theorem reads_string (text : String) : Reads (Writer.string text) (.text text) := by
  have read := Writer.read?_string text
  constructor
  · intro rest
    obtain ⟨c, more, quote, same⟩ := quote_of_read? (read rest)
    rw [same]
    rcases quote with rfl | rfl <;> exact skipInline_cons rfl more
  · intro fuel depth rest
    have held := read rest
    obtain ⟨c, more, quote, same⟩ := quote_of_read? held
    rw [same] at held ⊢
    rcases quote with rfl | rfl <;> rw [value?, held] <;> rfl

theorem reads_of_scalar {text : String} {value : Value} {c : Char}
    (first : text.toList.head? = some c) (scalar : Scalar.isScalarChar c = true)
    (read : ∀ rest, Scalar.read? (text.toList ++ '\n' :: rest) = some (value, '\n' :: rest)) :
    Reads text value := by
  obtain ⟨more, same⟩ := List.head?_eq_some_iff.mp first
  have other {d : Char} (never : Scalar.isScalarChar d = false) : c ≠ d := fun found =>
    Bool.false_ne_true (never.symm.trans (found ▸ scalar))
  constructor
  · intro rest
    rw [same]
    refine skipInline_cons ?_ _
    rw [Quoted.isInlineBlank, beq_false_of_ne (other rfl), beq_false_of_ne (other rfl)]
    rfl
  · intro fuel depth rest
    rw [← read rest, same, List.cons_append, value?]
    · exact fun _ found => other rfl (List.cons.inj found).1
    · exact fun _ found => other rfl (List.cons.inj found).1
    · exact fun _ found _ => other rfl (List.cons.inj found).1
    · exact fun _ found _ => other rfl (List.cons.inj found).1
    · exact fun _ _ found _ => other rfl (List.cons.inj found).1
    · exact fun _ _ found _ => other rfl (List.cons.inj found).1

theorem reads_count (n : Nat) : Reads (toString n) (.integer n) := by
  have digits : (toString n).toList = Nat.toDigits 10 n := by
    rw [Nat.toString_eq_ofList_toDigits, String.toList_ofList]
  obtain ⟨c, more, same⟩ := List.exists_cons_of_ne_nil (Nat.toDigits_ne_nil (b := 10) (n := n))
  refine reads_of_scalar (c := c) (by rw [digits, same]; rfl) ?_ (Scalar.read?_count n)
  exact Scalar.isScalarChar_of_mem_toDigits (same ▸ List.mem_cons_self)

theorem reads_flag (flag : Bool) : Reads (Writer.boolean flag) (.boolean flag) := by
  cases flag with
  | false => exact reads_of_scalar (c := 'f') (by decide) rfl (Scalar.read?_flag false)
  | true => exact reads_of_scalar (c := 't') (by decide) rfl (Scalar.read?_flag true)

/-- Whether a key needs no quotes. -/
def isBare (key : String) : Bool := !key.toList.isEmpty && key.toList.all isBareChar

theorem exists_cons_of_isBare {key : String} (bare : isBare key = true) :
    ∃ c more, key.toList = c :: more ∧ isBareChar c = true ∧ ∀ d ∈ more, isBareChar d = true := by
  rw [isBare, Bool.and_eq_true, List.all_eq_true, Bool.not_eq_true',
    List.isEmpty_eq_false_iff] at bare
  obtain ⟨c, more, same⟩ := List.exists_cons_of_ne_nil bare.1
  rw [same] at bare
  exact ⟨c, more, same, List.forall_mem_cons.mp bare.2⟩

theorem ne_of_bare {c d : Char} (bare : isBareChar c = true) (never : isBareChar d = false) :
    c ≠ d := fun found => Bool.false_ne_true (never.symm.trans (found ▸ bare))

theorem skipInline_bare {c : Char} (bare : isBareChar c = true) (rest : List Char) :
    skipInline (c :: rest) = c :: rest := by
  refine skipInline_cons ?_ rest
  rw [Quoted.isInlineBlank, beq_false_of_ne (ne_of_bare bare rfl),
    beq_false_of_ne (ne_of_bare bare rfl)]
  rfl

/-- A bare key ends at the first character that cannot continue it. -/
theorem keys?_of_bare {key : String} (bare : isBare key = true) {d : Char} (stop : isBareChar d = false)
    (rest : List Char) (undotted : ∀ more, skipInline (d :: rest) ≠ '.' :: more) (fuel : Nat) :
    keys? (fuel + 1) (key.toList ++ d :: rest) = some ([], key, skipInline (d :: rest)) := by
  obtain ⟨c, more, same, here, all⟩ := exists_cons_of_isBare bare
  have unquoted : (decide (c = '"') || decide (c = '\'')) = false := by
    rw [decide_eq_false (ne_of_bare here rfl), decide_eq_false (ne_of_bare here rfl)]
    rfl
  have one : key? (c :: (more ++ d :: rest)) = some (key, d :: rest) := by
    rw [key?, unquoted, if_neg Bool.false_ne_true, if_pos here,
      List.takeWhile_append_of_pos all, List.takeWhile_cons_of_neg (by simp [stop]),
      List.dropWhile_append_of_pos all, List.dropWhile_cons_of_neg (by simp [stop]),
      List.append_nil, ← same, String.ofList_toList]
  rw [same, List.cons_append, keys?, skipInline_bare here, one]
  dsimp only [Option.bind_eq_bind, Option.bind_some]
  split
  · next dotted => exact absurd dotted (undotted _)
  · rfl

theorem skipLines_of_solid {c : Char} {rest : List Char}
    (solid : skipInline (c :: rest) = c :: rest) (comment : c ≠ '#') (line : c ≠ '\n') (return_ : c ≠ '\r') (fuel : Nat) :
    skipLines (fuel + 1) (c :: rest) = some (c :: rest) := by
  rw [skipLines, solid]
  split
  · next found => exact absurd (List.cons.inj found).1 comment
  · next found => exact absurd (List.cons.inj found).1 line
  · next found => exact absurd (List.cons.inj found).1 return_
  · rfl

theorem lines?_blank (fuel : Nat) (state : State) (rest : List Char) :
    lines? fuel state ('\n' :: rest) = lines? fuel state rest := by
  cases fuel with
  | zero => rfl
  | succ fuel =>
    have skipped : skipLines (('\n' :: rest).length + 1) ('\n' :: rest) =
        skipLines (rest.length + 1) rest := rfl
    rw [lines?, lines?, skipped]

theorem lines?_end (fuel : Nat) (state : State) :
    lines? (fuel + 1) state [] = some state.root := rfl

end Reader

namespace Fields

/-- No field of a table has a key. -/
def Fresh (fields : Fields) (key : String) : Prop := ∀ field ∈ fields, field.1 ≠ key

variable {fields : Fields} {key : String}

theorem Fresh.find? (fresh : fields.Fresh key) :
    fields.find? (fun field => field.1 == key) = none :=
  List.find?_eq_none.mpr fun field member found => fresh field member (beq_iff_eq.mp found)

theorem Fresh.get? (fresh : fields.Fresh key) : fields.get? key = none := by
  rw [Fields.get?, fresh.find?]
  rfl

theorem Fresh.get?_last (fresh : fields.Fresh key) (node : Node) :
    Fields.get? (fields ++ [(key, node)]) key = some node := by
  rw [Fields.get?, List.find?_append, fresh.find?, Option.none_or, List.find?_singleton]
  simp

theorem Fresh.filter (fresh : fields.Fresh key) :
    fields.filter (fun field => field.1 != key) = fields :=
  List.filter_eq_self.mpr fun field member => bne_iff_ne.mpr (fresh field member)

theorem Fresh.set (fresh : fields.Fresh key) (node : Node) :
    fields.set key node = fields ++ [(key, node)] := by
  rw [Fields.set, fresh.filter]

theorem Fresh.set_last (fresh : fields.Fresh key) (old new : Node) :
    Fields.set (fields ++ [(key, old)]) key new = fields ++ [(key, new)] := by
  rw [Fields.set, List.filter_append, fresh.filter]
  simp

/-- A field that is added leaves the names free that differ from its own. -/
theorem fresh_append {α : Type} {name : α → String} {item : α} {items : List α}
    (distinct : name item ∉ items.map name) (fresh : ∀ other ∈ items, fields.Fresh (name other))
    {field : String × Node} (named : field.1 = name item) :
    ∀ other ∈ items, Fresh (fields ++ [field]) (name other) := by
  intro other member
  refine List.forall_mem_append.mpr ⟨fresh other member, List.forall_mem_singleton.mpr ?_⟩
  rw [named]
  intro same
  exact distinct (same ▸ List.mem_map_of_mem member)

end Fields

namespace Reader

theorem header?_of_bare {root : Fields} {name : String} (bare : isBare name = true)
    (fresh : root.Fresh name) (header : List String) (rest : List Char) :
    header? ⟨root, header⟩ (name.toList ++ ']' :: rest) =
      some (⟨root ++ [(name, .table .header [])], [name]⟩, rest) := by
  have named := keys?_of_bare bare (d := ']') rfl rest
    (fun _ same => absurd (List.cons.inj same).1 (by decide)) (name.toList ++ ']' :: rest).length
  have defined : Fields.define? name root = some (root ++ [(name, .table .header [])]) := by
    rw [Fields.define?, fresh.get?]
    exact congrArg some (fresh.set _)
  obtain ⟨c, more, same, here, -⟩ := exists_cons_of_isBare bare
  unfold header?
  split
  · next found =>
    rw [same] at found
    exact absurd (List.cons.inj found).1 (ne_of_bare here rfl)
  · rw [named]
    show (Fields.define? name root).bind _ = _
    rw [defined]
    rfl

/-- A header adds an empty table to those before it. -/
theorem lines?_header {root : Fields} {name : String} (bare : isBare name = true)
    (fresh : root.Fresh name) (header : List String) (fuel : Nat) (rest : List Char) :
    lines? (fuel + 1) ⟨root, header⟩ ('[' :: (name.toList ++ ']' :: '\n' :: rest)) =
      lines? fuel ⟨root ++ [(name, .table .header [])], [name]⟩ rest := by
  rw [lines?, skipLines_of_solid rfl (by decide) (by decide) (by decide)]
  show (header? ⟨root, header⟩ (name.toList ++ ']' :: '\n' :: rest)).bind _ = _
  rw [header?_of_bare bare fresh]
  rfl

/-- A key with the text of its value and the value that is read from the text. -/
structure Entry where
  key : String
  text : String
  value : Value
  bare : isBare key = true
  reads : Reads text value

namespace Entry

def write (entry : Entry) : String := Writer.line entry.key entry.text

def node (entry : Entry) : String × Node := (entry.key, .value entry.value)

def field (entry : Entry) : String × Value := (entry.key, entry.value)

theorem toList_write (entry : Entry) (rest : List Char) :
    entry.write.toList ++ rest =
      entry.key.toList ++ ' ' :: '=' :: ' ' :: (entry.text.toList ++ '\n' :: rest) := by
  simp [write, Writer.line]

end Entry

/-- A line adds its value to the table of the last header. -/
theorem pair?_entry (entry : Entry) {root held : Fields} {name : String} (last : root.Fresh name)
    (fresh : held.Fresh entry.key) (rest : List Char) :
    pair? ⟨root ++ [(name, .table .header held)], [name]⟩ (entry.write.toList ++ rest) =
      some (⟨root ++ [(name, .table .header (held ++ [entry.node]))], [name]⟩, '\n' :: rest) := by
  have named := keys?_of_bare entry.bare (d := ' ') rfl
    ('=' :: ' ' :: (entry.text.toList ++ '\n' :: rest))
    (fun _ same => absurd (List.cons.inj same).1 (by decide)) (entry.write.toList ++ rest).length
  have inserted : Fields.insert? .header held false [] entry.key entry.value =
      some (held ++ [entry.node]) := by
    rw [Fields.insert?, fresh.get?]
    exact congrArg some (fresh.set _)
  have modified : Fields.modify? (fun fields =>
      Fields.insert? .header fields false [] entry.key entry.value) [name]
      (root ++ [(name, .table .header held)]) =
        some (root ++ [(name, .table .header (held ++ [entry.node]))]) := by
    rw [Fields.modify?, last.get?_last]
    dsimp only
    rw [Fields.modify?, inserted]
    exact congrArg some (last.set_last _ _)
  have solid : skipInline (' ' :: (entry.text.toList ++ '\n' :: rest)) =
      entry.text.toList ++ '\n' :: rest := entry.reads.solid rest
  rw [← entry.toList_write] at named
  rw [pair?, named]
  show (value? _ depthLimit (skipInline (' ' :: (entry.text.toList ++ '\n' :: rest)))).bind _ = _
  rw [solid, entry.reads.read]
  show (Fields.modify? _ [name] _).bind _ = _
  rw [modified]
  rfl

theorem lines?_entry (entry : Entry) {root held : Fields} {name : String} (last : root.Fresh name)
    (fresh : held.Fresh entry.key) (fuel : Nat) (rest : List Char) :
    lines? (fuel + 1) ⟨root ++ [(name, .table .header held)], [name]⟩
        (entry.write.toList ++ rest) =
      lines? fuel ⟨root ++ [(name, .table .header (held ++ [entry.node]))], [name]⟩ rest := by
  have read := pair?_entry entry last fresh rest
  obtain ⟨c, more, same, here, -⟩ := exists_cons_of_isBare entry.bare
  rw [entry.toList_write, same, List.cons_append] at read ⊢
  rw [lines?, skipLines_of_solid (skipInline_bare here _) (ne_of_bare here rfl)
    (ne_of_bare here rfl) (ne_of_bare here rfl)]
  dsimp only [Option.bind_eq_bind, Option.bind_some]
  split
  · next found => cases found
  · next found => exact absurd (List.cons.inj found).1 (ne_of_bare here rfl)
  · rw [read]
    rfl

/-- The lines behind a header add their values to its table in their order. -/
theorem lines?_entries {entries : List Entry} (distinct : (entries.map Entry.key).Nodup)
    {root held : Fields} {name : String} (last : root.Fresh name)
    (fresh : ∀ entry ∈ entries, held.Fresh entry.key) (fuel : Nat) (rest : List Char) :
    lines? (fuel + entries.length) ⟨root ++ [(name, .table .header held)], [name]⟩
        (entries.flatMap (fun entry => entry.write.toList) ++ rest) =
      lines? fuel ⟨root ++ [(name, .table .header (held ++ entries.map Entry.node))], [name]⟩
        rest := by
  induction entries generalizing held with
  | nil => rw [List.map_nil, List.append_nil]; rfl
  | cons entry entries ih =>
    rw [List.map_cons, List.nodup_cons] at distinct
    obtain ⟨here, others⟩ := List.forall_mem_cons.mp fresh
    have later := Fields.fresh_append distinct.1 others (show entry.node.1 = entry.key from rfl)
    rw [List.flatMap_cons, List.append_assoc, List.length_cons, ← Nat.add_assoc,
      lines?_entry entry last here, ih distinct.2 later, List.append_assoc]
    rfl

/-- A table with a header and lines that give values to different keys. -/
structure Table where
  name : String
  entries : List Entry
  bare : isBare name = true
  distinct : (entries.map Entry.key).Nodup

namespace Table

def write (table : Table) : String :=
  "[" ++ table.name ++ "]\n" ++ String.join (table.entries.map Entry.write)

def node (table : Table) : String × Node :=
  (table.name, .table .header (table.entries.map Entry.node))

def field (table : Table) : String × Value := (table.name, .table (table.entries.map Entry.field))

/-- The number of lines of a table. -/
def lineCount (table : Table) : Nat := table.entries.length + 1

theorem toList_write (table : Table) : table.write.toList =
    '[' :: (table.name.toList ++
      ']' :: '\n' :: table.entries.flatMap fun entry => entry.write.toList) := by
  simp [write, String.toList_join, List.flatMap_map]

theorem lineCount_le (table : Table) : table.lineCount ≤ table.write.toList.length := by
  have short : table.entries.length ≤
      (table.entries.flatMap fun entry => entry.write.toList).length := by
    induction table.entries with
    | nil => exact Nat.le_refl 0
    | cons entry entries ih =>
      have line := congrArg List.length (entry.toList_write [])
      simp only [List.length_append, List.length_cons, List.flatMap_cons] at line ⊢
      omega
  rw [toList_write, lineCount]
  simp only [List.length_cons, List.length_append]
  omega

end Table

theorem lines?_table (table : Table) {root : Fields} (fresh : root.Fresh table.name)
    (header : List String) (fuel : Nat) (rest : List Char) :
    lines? (fuel + table.lineCount) ⟨root, header⟩ (table.write.toList ++ rest) =
      lines? fuel ⟨root ++ [table.node], [table.name]⟩ rest := by
  have nothing : ∀ entry ∈ table.entries, Fields.Fresh [] entry.key :=
    fun _ _ => List.forall_mem_nil _
  rw [table.toList_write, Table.lineCount, ← Nat.add_assoc, List.cons_append, List.append_assoc,
    List.cons_append, List.cons_append, lines?_header table.bare fresh,
    lines?_entries table.distinct fresh nothing]
  rfl

/-- The text of a document with a blank line between its tables. -/
def writeTables (tables : List Table) : String := "\n".intercalate (tables.map Table.write)

theorem toList_writeTables_cons_cons (table next : Table) (rest : List Table) :
    (writeTables (table :: next :: rest)).toList =
      table.write.toList ++ '\n' :: (writeTables (next :: rest)).toList := by
  simp [writeTables, String.toList_intercalate, List.intercalate]

theorem toList_writeTables_singleton (table : Table) :
    (writeTables [table]).toList = table.write.toList := rfl

/-- Tables begin with a bracket. -/
theorem head?_writeTables (tables : List Table) :
    ∀ c ∈ (writeTables tables).toList.head?, c = '[' := by
  intro c first
  cases tables with
  | nil => cases first
  | cons table tables =>
    cases tables with
    | nil =>
      rw [toList_writeTables_singleton, table.toList_write] at first
      exact (Option.some.inj first).symm
    | cons next rest =>
      rw [toList_writeTables_cons_cons, table.toList_write] at first
      exact (Option.some.inj first).symm

theorem lines?_writeTables {tables : List Table} (distinct : (tables.map Table.name).Nodup)
    {root : Fields} (fresh : ∀ table ∈ tables, root.Fresh table.name) (header : List String)
    {fuel : Nat} (enough : (writeTables tables).toList.length < fuel) :
    lines? fuel ⟨root, header⟩ (writeTables tables).toList =
      some (root ++ tables.map Table.node) := by
  -- every line takes one unit of fuel, and a line has at least one character
  induction tables generalizing root header fuel with
  | nil =>
    obtain ⟨left, rfl⟩ := Nat.exists_eq_add_of_lt enough
    rw [List.map_nil, List.append_nil]
    rfl
  | cons table tables ih =>
    rw [List.map_cons, List.nodup_cons] at distinct
    obtain ⟨here, others⟩ := List.forall_mem_cons.mp fresh
    have later := Fields.fresh_append distinct.1 others (show table.node.1 = table.name from rfl)
    have lineCount := table.lineCount_le
    cases tables with
    | nil =>
      rw [toList_writeTables_singleton] at enough ⊢
      obtain ⟨left, rfl⟩ := Nat.exists_eq_add_of_lt (Nat.lt_of_le_of_lt lineCount enough)
      have read := lines?_table table here header (left + 1) []
      rw [List.append_nil, lines?_end, Nat.add_comm, ← Nat.add_assoc] at read
      exact read
    | cons next rest =>
      rw [toList_writeTables_cons_cons] at enough ⊢
      rw [List.length_append, List.length_cons] at enough
      obtain ⟨left, rfl⟩ := Nat.exists_eq_add_of_le' (show table.lineCount ≤ fuel by omega)
      rw [lines?_table table here, lines?_blank, ih distinct.2 later _ (by omega),
        List.append_assoc]
      rfl

theorem fieldValues_eq_map (fields : Fields) :
    Node.fieldValues fields = fields.map fun field => (field.1, field.2.toValue) := by
  induction fields with
  | nil => rfl
  | cons field fields ih => rw [Node.fieldValues, ih]; rfl

theorem toValue_node (table : Table) : (table.node.1, table.node.2.toValue) = table.field := by
  show (table.name, Value.table (Node.fieldValues (table.entries.map Entry.node))) = _
  rw [fieldValues_eq_map, List.map_map]
  rfl

/-- A document is read as the values that its tables were written for. -/
theorem document?_writeTables {tables : List Table} (distinct : (tables.map Table.name).Nodup) :
    document? (writeTables tables) = some (tables.map Table.field) := by
  have unmarked : ∀ rest, (writeTables tables).toList ≠ '\ufeff' :: rest := by
    intro rest marked
    have opens := head?_writeTables tables '\ufeff' (marked ▸ rfl)
    revert opens
    decide
  have nothing : ∀ table ∈ tables, Fields.Fresh [] table.name := fun _ _ => List.forall_mem_nil _
  have read := lines?_writeTables distinct nothing [] (Nat.lt_add_one _)
  unfold document?
  split
  · next found => exact absurd found (unmarked _)
  · dsimp only
    rw [read, List.nil_append, Option.map_some, fieldValues_eq_map, List.map_map]
    exact congrArg some (List.map_congr_left fun table _ => toValue_node table)

end Reader

end Transclude.Toml
