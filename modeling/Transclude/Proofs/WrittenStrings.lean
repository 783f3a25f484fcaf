import Mathlib.Tactic.SplitIfs
import Transclude.Toml.Quoted
import Transclude.Toml.Writer

/-!
Strings survive writing and reading. Of the four forms two have escapes; each character of these is
written as something that is read as the character. On several lines quotes are counted, since three
of them would end the string.
-/

namespace Transclude.Toml

namespace Quoted

theorem isControl_eq (c : Char) : isControl c = (Writer.isControl c || c == '\n') := by
  by_cases line : c = '\n'
  · subst line
    decide
  · have other : (c == '\n') = false := beq_false_of_ne line
    simp only [isControl, Writer.isControl, bne, other, Bool.not_false, Bool.and_true, Bool.or_false]

theorem escape?_fourDigits {digits : List Char} (four : digits.length = 4) (rest : List Char) :
    escape? ('u' :: digits ++ rest) = (scalar? digits).map (·, rest) := by
  match digits, four with
  | [_, _, _, _], _ => rfl

/-- What stands in a basic string for a character that may not end it: the character, or an escape
that is read as the character and does not continue a line. -/
inductive StandsFor (long : Bool) (c : Char) : List Char → Prop
  | itself : c ≠ '"' → c ≠ '\\' → (isControl c = true → long = true ∧ c = '\n') →
    StandsFor long c [c]
  | escaped {code : List Char} : (∀ rest, continued? (code ++ rest) = none) →
    (∀ rest, escape? (code ++ rest) = some (c, rest)) → StandsFor long c ('\\' :: code)

theorem hex_of_ascii : ∀ n < 128, (Digits.toUpperHex 4 n).length = 4 ∧
    scalar? (Digits.toUpperHex 4 n) = some (Char.ofNat n) := by
  decide

theorem standsFor_escapeChar (long : Bool) {c : Char} (other : c ≠ '"') :
    StandsFor long c (Writer.escapeChar long c) := by
  unfold Writer.escapeChar
  split_ifs with backspace tab formFeed return_ backslash line isLong control
  · subst backspace
    exact .escaped (fun _ => rfl) fun _ => rfl
  · subst tab
    exact .escaped (fun _ => rfl) fun _ => rfl
  · subst formFeed
    exact .escaped (fun _ => rfl) fun _ => rfl
  · subst return_
    exact .escaped (fun _ => rfl) fun _ => rfl
  · subst backslash
    exact .escaped (fun _ => rfl) fun _ => rfl
  · exact .itself other backslash fun _ => ⟨isLong, line⟩
  · subst line
    exact .escaped (fun _ => rfl) fun _ => rfl
  · have ascii : c.toNat < 128 := by
      simp only [Writer.isControl, Bool.or_eq_true, Bool.and_eq_true, decide_eq_true_eq] at control
      omega
    obtain ⟨four, read⟩ := hex_of_ascii c.toNat ascii
    refine .escaped (fun _ => rfl) fun rest => ?_
    rw [escape?_fourDigits four, read, Char.ofNat_toNat]
    rfl
  · refine .itself other backslash fun held => ?_
    rw [isControl_eq, Bool.or_eq_true] at held
    exact (held.elim control fun same => line (beq_iff_eq.mp same)).elim

theorem standsFor_quote (long : Bool) : StandsFor long '"' ['\\', '"'] :=
  .escaped (fun _ => rfl) fun _ => rfl

theorem basic?_standsFor {c : Char} {written : List Char} (stands : StandsFor false c written)
    (rest : List Char) :
    basic? (written ++ rest) = (basic? rest).map fun (more, after) => (c :: more, after) := by
  cases stands with
  | itself no_quote no_backslash plain =>
    have no_control : isControl c = false := by
      rw [← Bool.not_eq_true]
      exact fun control => Bool.false_ne_true (plain control).1
    rw [List.singleton_append, basic?, no_control]
    · rfl
    · exact no_quote
    · exact no_backslash
  | escaped _ read =>
    rw [List.cons_append, basic?]
    split
    · next found =>
      rw [read rest] at found
      cases found
      rfl
    · next absent =>
      rw [read rest] at absent
      cases absent

theorem escape_other {c : Char} (other : c ≠ '"') (long : Bool) (quotes : Nat) (text : List Char) :
    Writer.escape long quotes (c :: text) =
      Writer.escapeChar long c ++ Writer.escape long 0 text := by
  rw [Writer.escape, if_neg other]

theorem escape_few_quotes {quotes : Nat} (few : quotes < 2) (text : List Char) :
    Writer.escape true quotes ('"' :: text) = '"' :: Writer.escape true (quotes + 1) text := by
  rw [Writer.escape, if_pos rfl, if_pos]
  exact decide_eq_true few

theorem escape_quote {long : Bool} {quotes : Nat} (last : long = true → 2 ≤ quotes)
    (text : List Char) :
    Writer.escape long quotes ('"' :: text) = ['\\', '"'] ++ Writer.escape long 0 text := by
  rw [Writer.escape, if_pos rfl, if_neg]
  · rfl
  · rw [Bool.and_eq_true, decide_eq_true_iff]
    exact fun few => Nat.not_le_of_lt few.2 (last few.1)

theorem basic?_escape (text rest : List Char) :
    basic? (Writer.escape false 0 text ++ '"' :: rest) = some (text, rest) := by
  induction text with
  | nil => rw [Writer.escape, List.nil_append, basic?]
  | cons c text ih =>
    by_cases quote : c = '"'
    · subst quote
      rw [escape_quote (fun long => (Bool.false_ne_true long).elim), List.append_assoc,
        basic?_standsFor (standsFor_quote false), ih]
      rfl
    · rw [escape_other quote, List.append_assoc, basic?_standsFor (standsFor_escapeChar false quote),
        ih]
      rfl

theorem literal?_append {text : List Char}
    (plain : ∀ c ∈ text, c ≠ '\'' ∧ isControl c = false) (rest : List Char) :
    literal? (text ++ '\'' :: rest) = some (text, rest) := by
  induction text with
  | nil => rfl
  | cons c text ih =>
    obtain ⟨⟨no_quote, no_control⟩, others⟩ := List.forall_mem_cons.mp plain
    rw [List.cons_append, literal?, no_control, ih others]
    · rfl
    · exact no_quote

/-- Up to two quotes may stand before a character other than a quote, if one may. -/
theorem read_quotes {read : List Char → Option (List Char × List Char)} {quote d : Char}
    (single : ∀ rest, (∀ more, rest ≠ quote :: quote :: more) →
      read (quote :: rest) = (read rest).map fun (more, after) => (quote :: more, after))
    {quotes : Nat} (few : quotes ≤ 2) (other : d ≠ quote) (rest : List Char) :
    read (List.replicate quotes quote ++ d :: rest) = (read (d :: rest)).map
      fun (more, after) => (List.replicate quotes quote ++ more, after) := by
  have last : read (quote :: d :: rest) =
      (read (d :: rest)).map fun (more, after) => (quote :: more, after) :=
    single _ fun _ same => other (List.cons.inj same).1
  match quotes, few with
  | 0, _ => exact Option.map_id_apply.symm
  | 1, _ => exact last
  | 2, _ =>
    have first := single (quote :: d :: rest) fun _ same =>
      other (List.cons.inj (List.cons.inj same).2).1
    rw [last, Option.map_map] at first
    exact first

/-- A quote inside of a string on several lines, in front of at most one more. -/
theorem longBasic?_quote {rest : List Char} (few : ∀ more, rest ≠ '"' :: '"' :: more) :
    longBasic? ('"' :: rest) =
      (longBasic? rest).map fun (more, after) => ('"' :: more, after) := by
  rw [longBasic?]
  · rfl
  · exact fun _ _ => few _
  · exact fun _ _ => few _
  · exact fun _ _ => few _
  · exact fun same => absurd same (by decide)
  · exact fun _ same => absurd same (by decide)

theorem longBasic?_standsFor {c : Char} {written : List Char} (stands : StandsFor true c written)
    (rest : List Char) :
    longBasic? (written ++ rest) = (longBasic? rest).map fun (more, after) => (c :: more, after) := by
  cases stands with
  | itself no_quote no_backslash plain =>
    have no_return : c ≠ '\r' := by
      rintro rfl
      exact absurd (plain rfl).2 (by decide)
    have no_control : (isControl c && c != '\n') = false := by
      cases control : isControl c with
      | false => rfl
      | true =>
        rw [(plain control).2]
        rfl
    rw [List.singleton_append, longBasic?, no_control]
    · rfl
    · exact fun _ same _ => no_quote same
    · exact fun _ same _ => no_quote same
    · exact fun _ same _ => no_quote same
    · exact no_backslash
    · exact fun _ same _ => no_return same
  | escaped continued read =>
    rw [List.cons_append, longBasic?]
    split
    · next found =>
      rw [continued rest] at found
      cases found
    · split
      · next found =>
        rw [read rest] at found
        cases found
        rfl
      · next absent =>
        rw [read rest] at absent
        cases absent

/-- What stands for a character begins with no quote, and with a line end only if it is one. -/
theorem StandsFor.head {long : Bool} {c : Char} {written : List Char}
    (stands : StandsFor long c written) :
    ∃ d more, written = d :: more ∧ d ≠ '"' ∧ d ≠ '\r' ∧ (d = '\n' → c = '\n') := by
  cases stands with
  | itself no_quote _ plain =>
    refine ⟨c, [], rfl, no_quote, ?_, id⟩
    rintro rfl
    exact absurd (plain rfl).2 (by decide)
  | @escaped code _ _ =>
    exact ⟨'\\', code, rfl, by decide, by decide, fun same => absurd same (by decide)⟩

theorem longBasic?_quotes {c : Char} {written : List Char} (stands : StandsFor true c written)
    {quotes : Nat} (few : quotes ≤ 2) (rest : List Char) :
    longBasic? (List.replicate quotes '"' ++ (written ++ rest)) = (longBasic? rest).map
      fun (more, after) => (List.replicate quotes '"' ++ c :: more, after) := by
  obtain ⟨d, more, same, other, -, -⟩ := stands.head
  have read := longBasic?_standsFor stands rest
  rw [same, List.cons_append] at read ⊢
  rw [read_quotes (fun _ => longBasic?_quote) few other, read, Option.map_map]
  rfl

/-- A text is read back from behind the quotes that were written since the last other character. -/
theorem longBasic?_escape (text rest : List Char) {quotes : Nat} (few : quotes ≤ 2) :
    longBasic? (List.replicate quotes '"' ++
      (Writer.escape true quotes text ++ '"' :: '"' :: '"' :: '\n' :: rest)) =
        some (List.replicate quotes '"' ++ text, '\n' :: rest) := by
  induction text generalizing quotes with
  | nil =>
    match quotes, few with
    | 0, _ | 1, _ | 2, _ => rw [Writer.escape]; simp [longBasic?, List.replicate]
  | cons c text ih =>
    have later : longBasic? (Writer.escape true 0 text ++ '"' :: '"' :: '"' :: '\n' :: rest) =
        some (text, '\n' :: rest) := ih (Nat.zero_le 2)
    by_cases quote : c = '"'
    · subst quote
      rcases Nat.lt_or_ge quotes 2 with another | last
      · -- the quote stands as it is and joins those before it
        have step := ih another
        rw [List.replicate_succ', List.append_assoc, List.append_assoc] at step
        rw [escape_few_quotes another]
        exact step
      · rw [escape_quote fun _ => last, List.append_assoc,
          longBasic?_quotes (standsFor_quote true) few, later]
        rfl
    · rw [escape_other quote, List.append_assoc,
        longBasic?_quotes (standsFor_escapeChar true quote) few, later]
      rfl

theorem longLiteral?_quote {rest : List Char} (few : ∀ more, rest ≠ '\'' :: '\'' :: more) :
    longLiteral? ('\'' :: rest) =
      (longLiteral? rest).map fun (more, after) => ('\'' :: more, after) := by
  rw [longLiteral?]
  · rfl
  · exact fun _ _ => few _
  · exact fun _ _ => few _
  · exact fun _ _ => few _
  · exact fun _ same => absurd same (by decide)

theorem longLiteral?_plain {c : Char} (no_quote : c ≠ '\'') (plain : Writer.isControl c = false)
    (rest : List Char) :
    longLiteral? (c :: rest) =
      (longLiteral? rest).map fun (more, after) => (c :: more, after) := by
  have no_return : c ≠ '\r' := by
    rintro rfl
    exact absurd plain (by decide)
  have no_control : (isControl c && c != '\n') = false := by
    rw [isControl_eq, plain, Bool.false_or, bne, Bool.and_not_self]
  rw [longLiteral?, no_control]
  · rfl
  · exact fun _ same _ => no_quote same
  · exact fun _ same _ => no_quote same
  · exact fun _ same _ => no_quote same
  · exact fun _ same _ => no_return same

theorem le_longestRun (mark : Char) (current : Nat) (text : List Char) :
    current ≤ Writer.longestRun mark current text := by
  induction text generalizing current with
  | nil => exact Nat.le_refl current
  | cons c text ih =>
    rw [Writer.longestRun]
    split
    · exact Nat.le_of_succ_le (ih (current + 1))
    · exact Nat.le_max_left _ _

/-- A text without three quotes in a row is read back from behind the quotes since the last other
character. -/
theorem longLiteral?_append {text : List Char} (plain : ∀ c ∈ text, Writer.isControl c = false)
    {quotes : Nat} (short : Writer.longestRun '\'' quotes text ≤ 2) (rest : List Char) :
    longLiteral? (List.replicate quotes '\'' ++ (text ++ '\'' :: '\'' :: '\'' :: '\n' :: rest)) =
      some (List.replicate quotes '\'' ++ text, '\n' :: rest) := by
  have few := Nat.le_trans (le_longestRun '\'' quotes text) short
  induction text generalizing quotes with
  | nil =>
    match quotes, few with
    | 0, _ | 1, _ | 2, _ => rfl
  | cons c text ih =>
    obtain ⟨here, others⟩ := List.forall_mem_cons.mp plain
    rw [Writer.longestRun] at short
    split at short
    · next quote =>
      subst quote
      have step := ih others short (Nat.le_trans (le_longestRun _ _ _) short)
      rw [List.replicate_succ', List.append_assoc, List.append_assoc] at step
      exact step
    · next quote =>
      have later : longLiteral? (text ++ '\'' :: '\'' :: '\'' :: '\n' :: rest) =
          some (text, '\n' :: rest) :=
        ih others (Nat.le_trans (Nat.le_max_right _ _) short) (Nat.zero_le 2)
      rw [List.cons_append, read_quotes (fun _ => longLiteral?_quote) few quote,
        longLiteral?_plain quote here, later]
      rfl

end Quoted

namespace Quoted

theorem dropLineEnd_cons {c : Char} (line : c ≠ '\n') (return_ : c ≠ '\r') (rest : List Char) :
    dropLineEnd (c :: rest) = c :: rest := by
  rw [dropLineEnd]
  · exact fun _ same => line (List.cons.inj same).1
  · exact fun _ same => return_ (List.cons.inj same).1

theorem dropLineEnd_escape {text : List Char} (lines : '\n' ∉ text) (rest : List Char) :
    dropLineEnd (Writer.escape true 0 text ++ '"' :: rest) =
      Writer.escape true 0 text ++ '"' :: rest := by
  cases text with
  | nil => exact dropLineEnd_cons (by decide) (by decide) rest
  | cons c text =>
    by_cases quote : c = '"'
    · subst quote
      rw [escape_few_quotes (Nat.zero_lt_succ 1)]
      exact dropLineEnd_cons (by decide) (by decide) _
    · obtain ⟨d, more, same, -, no_return, line⟩ := (standsFor_escapeChar true quote).head
      rw [escape_other quote, same]
      exact dropLineEnd_cons (fun found => lines (line found ▸ List.mem_cons_self)) no_return _

theorem dropLineEnd_append {text : List Char} (lines : '\n' ∉ text)
    (plain : ∀ c ∈ text, Writer.isControl c = false) (rest : List Char) :
    dropLineEnd (text ++ '\'' :: rest) = text ++ '\'' :: rest := by
  cases text with
  | nil => exact dropLineEnd_cons (by decide) (by decide) rest
  | cons c text =>
    refine dropLineEnd_cons (fun same => lines (same ▸ List.mem_cons_self)) ?_ _
    rintro rfl
    exact absurd (plain '\r' List.mem_cons_self) (by decide)

/-- Behind the delimiter of a string on several lines the line end is dropped that was put there,
and no other. -/
theorem dropLineEnd_long (text : List Char) {input : List Char}
    (kept : '\n' ∉ text → dropLineEnd input = input) :
    dropLineEnd ((if text.contains '\n' then ['\n'] else []) ++ input) = input := by
  split
  · rfl
  · next lines => exact kept fun member => lines (List.contains_iff_mem.mpr member)

/-- A string that ends before a line end is on one line, unless it began with three quotes. -/
theorem read?_of_basic? {input text rest : List Char}
    (read : basic? input = some (text, '\n' :: rest)) :
    read? ('"' :: input) = some (String.ofList text, '\n' :: rest) := by
  -- behind three quotes the string would have ended before the third
  have single : ∀ more, input ≠ '"' :: '"' :: more := by
    rintro more rfl
    rw [basic?] at read
    cases read
  rw [read?, readShort?, read]
  · rfl
  · exact fun _ same => single _ (List.cons.inj same).2
  · exact fun _ same => absurd (List.cons.inj same).1 (by decide)

theorem read?_of_literal? {input text rest : List Char}
    (read : literal? input = some (text, '\n' :: rest)) :
    read? ('\'' :: input) = some (String.ofList text, '\n' :: rest) := by
  have single : ∀ more, input ≠ '\'' :: '\'' :: more := by
    rintro more rfl
    rw [literal?] at read
    cases read
  rw [read?, readShort?, read]
  · rfl
  · exact fun _ same => absurd (List.cons.inj same).1 (by decide)
  · exact fun _ same => single _ (List.cons.inj same).2

end Quoted

namespace Writer

theorem plain_of_form_literal {text : List Char} (chosen : form text = .literal) :
    ∀ c ∈ text, c ≠ '\'' ∧ Quoted.isControl c = false := by
  dsimp only [form] at chosen
  split_ifs at chosen with plain unquoted fits
  simp only [Bool.and_eq_true, Bool.not_eq_true'] at fits
  obtain ⟨⟨controls, quotes⟩, lines⟩ := fits
  intro c member
  have no_line : c ≠ '\n' := fun same =>
    Bool.false_ne_true (lines.symm.trans (List.contains_iff_mem.mpr (same ▸ member)))
  refine ⟨fun same =>
    Bool.false_ne_true (quotes.symm.trans (List.contains_iff_mem.mpr (same ▸ member))), ?_⟩
  rw [Quoted.isControl_eq, Bool.eq_false_iff.mpr (List.any_eq_false.mp controls c member)]
  exact beq_false_of_ne no_line

theorem short_of_form_longLiteral {text : List Char} (chosen : form text = .longLiteral) :
    (∀ c ∈ text, isControl c = false) ∧ longestRun '\'' 0 text ≤ 2 := by
  dsimp only [form] at chosen
  split_ifs at chosen with plain unquoted literal basic fits
  simp only [Bool.and_eq_true, Bool.not_eq_true', decide_eq_true_iff] at fits
  exact ⟨fun c member => Bool.eq_false_iff.mpr (List.any_eq_false.mp fits.1 c member), fits.2⟩

theorem toList_long {delimiter : String} {quote : Char}
    (quotes : delimiter.toList = [quote, quote, quote]) (text body rest : List Char) :
    (long delimiter text body).toList ++ rest =
      quote :: quote :: quote :: ((if text.contains '\n' then ['\n'] else []) ++
        (body ++ quote :: quote :: quote :: rest)) := by
  unfold long
  split <;> simp [quotes]

/-- A written string is read back, whatever form it has. -/
theorem read?_string (text : String) (rest : List Char) :
    Quoted.read? ((string text).toList ++ '\n' :: rest) = some (text, '\n' :: rest) := by
  dsimp only [string]
  split
  · have read := Quoted.read?_of_basic? (Quoted.basic?_escape text.toList ('\n' :: rest))
    simpa using read
  · next chosen =>
    have read := Quoted.read?_of_literal?
      (Quoted.literal?_append (plain_of_form_literal chosen) ('\n' :: rest))
    simpa using read
  · have read := Quoted.longBasic?_escape text.toList rest (Nat.zero_le 2)
    have opens := Quoted.dropLineEnd_long text.toList fun lines =>
      Quoted.dropLineEnd_escape lines ('"' :: '"' :: '\n' :: rest)
    rw [List.replicate_zero, List.nil_append, List.nil_append] at read
    rw [toList_long (show "\"\"\"".toList = ['"', '"', '"'] from rfl), Quoted.read?, opens, read]
    exact congrArg (fun text => some (text, _)) String.ofList_toList
  · next chosen =>
    obtain ⟨plain, short⟩ := short_of_form_longLiteral chosen
    have read := Quoted.longLiteral?_append plain short rest
    have opens := Quoted.dropLineEnd_long text.toList fun lines =>
      Quoted.dropLineEnd_append lines plain ('\'' :: '\'' :: '\n' :: rest)
    rw [List.replicate_zero, List.nil_append, List.nil_append] at read
    rw [toList_long (show "'''".toList = ['\'', '\'', '\''] from rfl), Quoted.read?, opens, read]
    exact congrArg (fun text => some (text, _)) String.ofList_toList

end Writer

end Transclude.Toml
