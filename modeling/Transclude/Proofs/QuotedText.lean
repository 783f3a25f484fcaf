import Transclude.Proofs.TokenLayout

/-!
Texts in quotes. Whoever writes one puts a backslash before each quote and each backslash of the
text, and the scan for tokens skips what stands behind a backslash. Between double quotes the text
is read back as it was. Between single quotes a backslash is a character like others to the reader,
and so a quote behind one ends the string there; such texts do not come back.
-/

namespace Transclude.Parameter

open scoped Computability

namespace Quoted

/-- A text with a backslash before each quote and each backslash of it. -/
def protect (quote : Char) (text : List Char) : List Char :=
  text.flatMap fun c => if c = quote ∨ c = '\\' then ['\\', c] else [c]

/-- A text in quotes. -/
def write (quote : Char) (text : String) : List Char :=
  quote :: (protect quote text.toList ++ [quote])

theorem protect_special {quote c : Char} (special : c = quote ∨ c = '\\') (text : List Char) :
    protect quote (c :: text) = '\\' :: c :: protect quote text := by
  rw [protect, List.flatMap_cons, if_pos special]
  rfl

theorem protect_plain {quote c : Char} (plain : c ≠ quote ∧ c ≠ '\\') (text : List Char) :
    protect quote (c :: text) = c :: protect quote text := by
  rw [protect, List.flatMap_cons, if_neg (not_or.mpr plain)]
  rfl

theorem protect_of_plain {quote : Char} {text : List Char}
    (plain : ∀ c ∈ text, c ≠ quote ∧ c ≠ '\\') : protect quote text = text := by
  induction text with
  | nil => rfl
  | cons c text ih =>
    obtain ⟨here, others⟩ := List.forall_mem_cons.mp plain
    rw [protect_plain here, ih others]

/-- A text in quotes is what may stand between quotes, in quotes. -/
theorem write_mem {quote : Char} (inline : quote ≠ '\n') (text : String) :
    write quote text ∈
      ({[quote]} : Language Char) * ((Token.quotedItem quote)∗ * ({[quote]} : Language Char)) := by
  refine Token.mem_quoted.mpr ⟨_, Token.mem_closed.mpr
    ⟨text.toList.map fun c => if c = quote ∨ c = '\\' then ['\\', c] else [c], ?_, ?_⟩, rfl⟩
  · rw [protect, List.flatMap_def]
  · intro part member
    obtain ⟨c, -, rfl⟩ := List.mem_map.mp member
    split
    · next special =>
      have kept : c ≠ '\n' := by
        rcases special with rfl | rfl
        · exact inline
        · decide
      exact .inr (Language.mem_mul.mpr ⟨['\\'], rfl, [c], ⟨c, by simpa using kept, rfl⟩, rfl⟩)
    · next plain =>
      rw [not_or] at plain
      exact .inl ⟨c, by simpa using plain, rfl⟩

/-! Between double quotes. -/

theorem read?_double_plain {c : Char} (plain : c ≠ '"' ∧ c ≠ '\\') (rest : List Char) :
    read? .double (c :: rest) = (read? .double rest).map (c :: ·) := by
  rw [read?]
  · exact plain.1
  · exact fun same _ => plain.2 same
  · exact fun _ same _ => plain.2 same
  · exact fun _ _ same _ => plain.2 same

/-- A protected quote or backslash stands for itself. -/
theorem read?_double_special {c : Char} (special : c = '"' ∨ c = '\\') (rest : List Char) :
    read? .double ('\\' :: c :: rest) = (read? .double rest).map (c :: ·) := by
  rcases special with rfl | rfl
  · rw [read?]
    · rfl
    · exact fun _ same _ => absurd same (by decide)
  · rw [read?]
    · rfl
    · exact fun _ same _ => absurd same (by decide)

theorem read?_double_protect (text rest : List Char) :
    read? .double (protect '"' text ++ rest) = (read? .double rest).map (text ++ ·) := by
  induction text with
  | nil => exact Option.map_id_apply.symm
  | cons c text ih =>
    by_cases special : c = '"' ∨ c = '\\'
    · rw [protect_special special, List.cons_append, List.cons_append, read?_double_special special,
        ih, Option.map_map]
      rfl
    · rw [not_or] at special
      rw [protect_plain special, List.cons_append, read?_double_plain special, ih, Option.map_map]
      rfl

/-- A text in double quotes is read back. -/
theorem decode?_write_double (text : String) : decode? (write '"' text) = some text := by
  rw [decode?, write, read?, read?_double_protect, read?, read?]
  simp

/-! Between single quotes. -/

theorem read?_single_cons {c : Char} (other : c ≠ '\'') (rest : List Char) :
    read? .single (c :: rest) = (read? .single rest).map (c :: ·) := by
  rw [read?]
  exact other

/-- The string ends at the first quote, whatever stands before it. -/
theorem read?_single_append {front : List Char} (within : '\'' ∉ front) (back : List Char) :
    read? .single (front ++ '\'' :: back) = (read? .bare back).map (front ++ ·) := by
  induction front with
  | nil =>
    rw [List.nil_append, read?]
    exact Option.map_id_apply.symm
  | cons c front ih =>
    rw [List.mem_cons, not_or] at within
    rw [List.cons_append, read?_single_cons (Ne.symm within.1), ih within.2, Option.map_map]
    rfl

/-- Reading makes no text longer. -/
theorem length_le_of_read? {context : Context} {input output : List Char}
    (read : read? context input = some output) : output.length ≤ input.length := by
  fun_induction read? context input generalizing output with
  | case1 => cases read; exact Nat.le_refl _
  | case2 rest ih | case3 rest ih | case5 rest ih | case7 rest ih =>
    exact Nat.le_succ_of_le (ih read)
  | case4 c rest _ _ ih | case6 c rest _ ih | case11 c rest _ _ _ _ ih =>
    obtain ⟨more, later, rfl⟩ := Option.map_eq_some_iff.mp read
    exact Nat.succ_le_succ (ih later)
  | case8 => cases read
  | case9 rest ih =>
    obtain ⟨c, -, read⟩ := Option.bind_eq_some_iff.mp read
    obtain ⟨more, later, rfl⟩ := Option.map_eq_some_iff.mp read
    have bound := ih later
    have shorter := length_drop_closed rest
    simp only [List.length_cons]
    omega
  | case10 e rest _ ih =>
    obtain ⟨c, -, read⟩ := Option.bind_eq_some_iff.mp read
    obtain ⟨more, later, rfl⟩ := Option.map_eq_some_iff.mp read
    exact Nat.le_succ_of_le (Nat.succ_le_succ (ih later))

/-- A quote that is read outside of quotes was written with more characters than itself. -/
theorem length_lt_of_read?_bare {input output : List Char}
    (read : read? .bare input = some ('\'' :: output)) : output.length + 1 < input.length := by
  cases input with
  | nil =>
    rw [read?] at read
    cases read
  | cons c rest =>
    by_cases single : c = '\''
    · subst single
      rw [read?] at read
      exact Nat.lt_succ_of_le (length_le_of_read? read)
    · by_cases double : c = '"'
      · subst double
        rw [read?] at read
        exact Nat.lt_succ_of_le (length_le_of_read? read)
      · rw [read?] at read
        · obtain ⟨more, -, same⟩ := Option.map_eq_some_iff.mp read
          exact absurd (List.cons.inj same).1 single
        · exact single
        · exact double

theorem decode?_single (text : List Char) :
    decode? ('\'' :: text) = (read? .single text).map String.ofList := by
  rw [decode?, read?]

theorem decode?_eq_some_iff {token text : List Char} :
    decode? token = some (String.ofList text) ↔ read? .bare token = some text := by
  rw [decode?, Option.map_eq_some_iff]
  constructor
  · rintro ⟨other, read, same⟩
    rwa [← String.ofList_injective same]
  · exact fun read => ⟨text, read, rfl⟩

/-- What stands between single quotes is read as it stands if it holds no other such quote, and is
read as something else if it does. -/
theorem decode?_between_single_iff (body : List Char) :
    decode? ('\'' :: (body ++ ['\''])) = some (String.ofList body) ↔ '\'' ∉ body := by
  rw [decode?_eq_some_iff, read?]
  constructor
  · intro read member
    obtain ⟨front, back, rfl, within⟩ := List.eq_append_cons_of_mem member
    rw [List.append_assoc, List.cons_append, read?_single_append within] at read
    obtain ⟨more, later, same⟩ := Option.map_eq_some_iff.mp read
    -- what follows the first quote would have to give that quote and itself
    rw [List.append_cancel_left same] at later
    have longer := length_lt_of_read?_bare later
    rw [List.length_append] at longer
    exact absurd longer (Nat.lt_irrefl _)
  · intro within
    rw [read?_single_append within, read?, Option.map_some, List.append_nil]

/-- Each backslash of a text is read as two, so that from the first one on there are too many. -/
theorem ne_of_read?_single_protect {text output : List Char}
    (read : read? .single (protect '\'' text ++ ['\'']) = some output) (count : Nat) :
    List.replicate (count + 1) '\\' ++ output ≠ text := by
  induction text generalizing output count with
  | nil => simp [List.replicate_succ]
  | cons c text ih =>
    intro same
    rw [List.replicate_succ, List.cons_append] at same
    obtain ⟨rfl, others⟩ := List.cons.inj same
    rw [protect_special (.inr rfl), List.cons_append, List.cons_append,
      read?_single_cons (by decide), read?_single_cons (by decide), Option.map_map] at read
    obtain ⟨more, later, rfl⟩ := Option.map_eq_some_iff.mp read
    refine ih later (count + 1) ?_
    rw [← others, List.replicate_succ', List.replicate_succ', List.append_assoc, List.append_assoc]
    rfl

theorem plain_of_read?_single_protect {text : List Char}
    (read : read? .single (protect '\'' text ++ ['\'']) = some text) :
    ∀ c ∈ text, c ≠ '\'' ∧ c ≠ '\\' := by
  induction text with
  | nil => exact List.forall_mem_nil _
  | cons c text ih =>
    by_cases special : c = '\'' ∨ c = '\\'
    · rw [protect_special special, List.cons_append, read?_single_cons (by decide)] at read
      obtain ⟨more, later, same⟩ := Option.map_eq_some_iff.mp read
      obtain ⟨rfl, rfl⟩ := List.cons.inj same
      rw [List.cons_append, read?_single_cons (by decide)] at later
      obtain ⟨output, later, same⟩ := Option.map_eq_some_iff.mp later
      exact absurd same (ne_of_read?_single_protect later 0)
    · rw [not_or] at special
      rw [protect_plain special, List.cons_append, read?_single_cons special.1] at read
      obtain ⟨more, later, same⟩ := Option.map_eq_some_iff.mp read
      rw [(List.cons.inj same).2] at later
      exact List.forall_mem_cons.mpr ⟨special, ih later⟩

/-- A text in single quotes is read back if it has neither such quotes nor backslashes, and is not
if it has one. -/
theorem decode?_write_single_iff (text : String) :
    decode? (write '\'' text) = some text ↔ ∀ c ∈ text.toList, c ≠ '\'' ∧ c ≠ '\\' := by
  have read : decode? (write '\'' text) = some (String.ofList text.toList) ↔
      read? .bare (write '\'' text) = some text.toList := decode?_eq_some_iff
  rw [String.ofList_toList] at read
  rw [read, write, read?]
  constructor
  · exact plain_of_read?_single_protect
  · intro plain
    have within : '\'' ∉ text.toList := fun member => (plain _ member).1 rfl
    rw [protect_of_plain plain, read?_single_append within, read?, Option.map_some, List.append_nil]

end Quoted

open Quoted

theorem Token.isWritten_singleQuoted (text : String) :
    (Token.singleQuoted (write '\'' text)).IsWritten := write_mem (by decide) text

theorem Token.isWritten_doubleQuoted (text : String) :
    (Token.doubleQuoted (write '"' text)).IsWritten := write_mem (by decide) text

theorem Token.IsWritten.exists_between {text : List Char}
    (written : (singleQuoted text).IsWritten) : ∃ body, text = '\'' :: (body ++ ['\'']) := by
  obtain ⟨closed, member, same⟩ := mem_quoted.mp written
  obtain ⟨parts, rfl, -⟩ := mem_closed.mp member
  exact ⟨parts.flatten, same⟩

namespace Expression

theorem evaluate?_singleQuoted {text : List Char} (written : (Token.singleQuoted text).IsWritten) :
    evaluate? (String.ofList text) = (decode? text).map .scalar :=
  @evaluate?_text (.singleQuoted text) written rfl

theorem evaluate?_doubleQuoted {text : List Char} (written : (Token.doubleQuoted text).IsWritten) :
    evaluate? (String.ofList text) = (decode? text).map .scalar :=
  @evaluate?_text (.doubleQuoted text) written rfl

/-- A text in single quotes is one token, and it is read back exactly if it holds neither such
quotes nor backslashes. In general a token in single quotes is read as what stands between its
quotes exactly if there is no quote among it, although the scan passes over those that stand behind
a backslash; for the reader the string ends at the first quote, and the rest of the token is read
from there. -/
theorem evaluate?_singleQuoted_iff (text : String) :
    Token.scan? (write '\'' text) = some [.singleQuoted (write '\'' text)] ∧
    (evaluate? (String.ofList (write '\'' text)) = some (.scalar text) ↔
      ∀ c ∈ text.toList, c ≠ '\'' ∧ c ≠ '\\') ∧
    ∀ input token after, Token.next? input = some (.singleQuoted token, after) →
      ∃ body, token = '\'' :: (body ++ ['\'']) ∧
        (decode? token = some (String.ofList body) ↔ '\'' ∉ body) ∧
        ∀ front back, token = '\'' :: (front ++ '\'' :: back) → '\'' ∉ front →
          decode? token = (read? .bare back).map fun more => String.ofList (front ++ more) := by
  have written := Token.isWritten_singleQuoted text
  refine ⟨Token.scan?_text written, ?_, fun input token after found => ?_⟩
  · rw [evaluate?_singleQuoted written, ← decode?_write_single_iff]
    cases decode? (write '\'' text) <;> simp
  · have accepted : (Token.singleQuoted token).IsWritten := Token.isWritten_of_next? found
    obtain ⟨body, rfl⟩ := accepted.exists_between
    refine ⟨body, rfl, decode?_between_single_iff body, ?_⟩
    intro front back same within
    rw [same, decode?_single, read?_single_append within, Option.map_map]
    rfl

/-- The apostrophe of a name written between single quotes ends the string, and what follows it is
read without quotes; a name without one is read back. -/
theorem apostrophe_read :
    Token.next? "'it\\'s'.md".toList = some (.singleQuoted "'it\\'s'".toList, ".md".toList) ∧
      decode? "'it\\'s'".toList =
        (read? .bare "s'".toList).map (fun more => String.ofList ("it\\".toList ++ more)) ∧
      evaluate? (String.ofList (write '\'' "its")) = some (.scalar "its") := by
  have found : Token.next? "'it\\'s'.md".toList =
      some (.singleQuoted "'it\\'s'".toList, ".md".toList) := by decide
  obtain ⟨-, readBack, tokens⟩ := evaluate?_singleQuoted_iff "its"
  obtain ⟨body, -, -, ends⟩ := tokens _ _ _ found
  exact ⟨found, ends "it\\".toList "s'".toList (by decide) (by decide),
    readBack.mpr (by simp)⟩

/-- A text with an apostrophe does not come back: the backslash is kept and the apostrophe is
lost. -/
theorem apostrophe_lost :
    String.ofList (write '\'' "it's") = "'it\\'s'" ∧
      Token.scan? "'it\\'s'".toList = some [.singleQuoted "'it\\'s'".toList] ∧
      evaluate? "'it\\'s'" = some (.scalar "it\\s") ∧
      evaluate? "'it\\'s'" ≠ some (.scalar "it's") := by
  have read : evaluate? "'it\\'s'" = some (.scalar "it\\s") := by
    with_unfolding_all rfl
  refine ⟨by decide, by with_unfolding_all rfl, read, ?_⟩
  rw [read]
  decide

end Expression

end Transclude.Parameter
