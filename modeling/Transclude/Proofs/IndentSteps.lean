import Mathlib.Algebra.GCDMonoid.Multiset
import Mathlib.Algebra.GCDMonoid.Nat
import Transclude.Pipeline
import Transclude.Proofs.RunLaws

/-!
Rescaled indentation. Spaces and tabs in front of a text are counted in columns, and the greatest
common divisor of all counts is the step that becomes one width. What stands behind the indentation
is found in the expanded text at the byte that has the number of the column, so that nothing of a
text is cut off or cut through.
-/

namespace Transclude.Indent

def isBlank (c : Char) : Bool := c == ' ' || c == '\t'

/-- What stands behind the indentation of a text. -/
def body (text : List Char) : List Char := text.dropWhile isBlank

variable {width unit : Nat}

/-! One text. -/

theorem head_body (text : List Char) : ∀ c ∈ (body text).head?, c ≠ ' ' ∧ c ≠ '\t' := by
  intro c first
  have other := List.head?_dropWhile_not isBlank text
  rw [show (text.dropWhile isBlank).head? = some c from first] at other
  simpa [isBlank] using other

theorem body_of_head {text : List Char} (other : ∀ c ∈ text.head?, c ≠ ' ' ∧ c ≠ '\t') :
    body text = text := by
  cases text with
  | nil => rfl
  | cons c rest => exact List.dropWhile_cons_of_neg (by simp [isBlank, other c rfl])

theorem columns_of_head {text : List Char} (other : ∀ c ∈ text.head?, c ≠ ' ' ∧ c ≠ '\t')
    (width : Nat) : columns width text = 0 := by
  rw [columns]
  · rintro rest rfl
    exact (other ' ' rfl).1 rfl
  · rintro rest rfl
    exact (other '\t' rfl).2 rfl

theorem columns_spaces (width count : Nat) (text : List Char) :
    columns width (List.replicate count ' ' ++ text) = columns width text + count := by
  induction count with
  | zero => rfl
  | succ count ih =>
    rw [List.replicate_succ, List.cons_append, columns, ih]
    omega

theorem body_spaces (count : Nat) (text : List Char) :
    body (List.replicate count ' ' ++ text) = body text :=
  List.dropWhile_append_of_pos fun c member => by rw [List.eq_of_mem_replicate member]; rfl

theorem expand_cons (width : Nat) (c : Char) (text : List Char) :
    expand width (c :: text) =
      (if c = '\t' then List.replicate width ' ' else [c]) ++ expand width text := List.flatMap_cons

theorem expand_of_not_mem {text : List Char} (tabs : '\t' ∉ text) : expand width text = text := by
  induction text with
  | nil => rfl
  | cons c text ih =>
    rw [List.mem_cons, not_or] at tabs
    rw [expand_cons, if_neg (Ne.symm tabs.1), ih tabs.2]
    rfl

theorem tab_not_mem_expand (width : Nat) (text : List Char) : '\t' ∉ expand width text := by
  intro member
  obtain ⟨c, -, among⟩ := List.mem_flatMap.mp member
  split at among
  · exact absurd (List.eq_of_mem_replicate among) (by decide)
  · next other => exact other (List.mem_singleton.mp among).symm

theorem head_expand {text : List Char} (other : ∀ c ∈ text.head?, c ≠ ' ' ∧ c ≠ '\t')
    (width : Nat) : ∀ c ∈ (expand width text).head?, c ≠ ' ' ∧ c ≠ '\t' := by
  cases text with
  | nil => exact other
  | cons d rest =>
    rw [expand_cons, if_neg (other d rfl).2]
    exact other

/-- The columns of an indentation: one for each of its spaces and a width for each of its tabs. -/
theorem columns_eq_count (width : Nat) (text : List Char) :
    columns width text =
      (text.takeWhile isBlank).count ' ' + width * (text.takeWhile isBlank).count '\t' := by
  fun_induction columns width text with
  | case1 rest ih =>
    rw [List.takeWhile_cons_of_pos rfl, List.count_cons_self, List.count_cons_of_ne (by decide), ih]
    omega
  | case2 rest ih =>
    rw [List.takeWhile_cons_of_pos rfl, List.count_cons_self, List.count_cons_of_ne (by decide), ih,
      Nat.mul_succ]
    omega
  | case3 text space tab =>
    cases text with
    | nil => rfl
    | cons c rest =>
      rw [List.takeWhile_cons_of_neg]
      · rfl
      · have space : c ≠ ' ' := fun same => space rest (same ▸ rfl)
        have tab : c ≠ '\t' := fun same => tab rest (same ▸ rfl)
        simp [isBlank, space, tab]

/-- An expanded text begins with as many spaces as its indentation has columns. -/
theorem expand_eq (width : Nat) (text : List Char) :
    expand width text = List.replicate (columns width text) ' ' ++ expand width (body text) := by
  fun_induction columns width text with
  | case1 rest ih =>
    rw [expand_cons, if_neg (by decide), ih, List.replicate_succ]
    rfl
  | case2 rest ih =>
    rw [expand_cons, if_pos rfl, ih, Nat.add_comm, List.replicate_add, List.append_assoc]
    rfl
  | case3 text space tab =>
    rw [body_of_head]
    · rfl
    · intro c first
      obtain ⟨rest, rfl⟩ := List.head?_eq_some_iff.mp first
      exact ⟨fun same => space rest (same ▸ rfl), fun same => tab rest (same ▸ rfl)⟩

/-- The expanded rest of a text does not add to spaces in front of it. -/
theorem columns_indented (other count width : Nat) (text : List Char) :
    columns other (List.replicate count ' ' ++ expand width (body text)) = count := by
  rw [columns_spaces, columns_of_head (head_expand (head_body text) width), Nat.zero_add]

theorem body_indented (count width : Nat) (text : List Char) :
    body (List.replicate count ' ' ++ expand width (body text)) = expand width (body text) := by
  rw [body_spaces, body_of_head (head_expand (head_body text) width)]

theorem columns_expand (other width : Nat) (text : List Char) :
    columns other (expand width text) = columns width text := by
  rw [expand_eq, columns_indented]

theorem body_expand (width : Nat) (text : List Char) :
    body (expand width text) = expand width (body text) := by
  rw [expand_eq, body_indented]

/-- Cutting the expanded text behind the indentation leaves the expanded rest. -/
theorem rescale_eq (width unit : Nat) (node : String) :
    rescale width unit node =
      String.ofList (List.replicate (columns width node.toList / unit * width) ' ' ++
        expand width (body node.toList)) := by
  rw [rescale, expand_eq, List.drop_left' List.length_replicate]

/-- A rescaled text is indented with spaces, so that its columns do not depend on a width. -/
theorem columns_rescale (width unit : Nat) (node : String) (other : Nat) :
    columns other (rescale width unit node).toList = columns width node.toList / unit * width := by
  rw [rescale_eq, String.toList_ofList, columns_indented]

theorem body_rescale (width unit : Nat) (node : String) :
    body (rescale width unit node).toList = expand width (body node.toList) := by
  rw [rescale_eq, String.toList_ofList, body_indented]

/-! The common step of several texts. -/

theorem indentStep_eq_gcd (width : Nat) (nodes : List String) :
    indentStep width nodes =
      Multiset.gcd (nodes.map fun node => columns width node.toList : Multiset ℕ) :=
  (Multiset.coe_fold_l _ _ _).symm

theorem dvd_indentStep_iff {divisor : Nat} {nodes : List String} :
    divisor ∣ indentStep width nodes ↔ ∀ node ∈ nodes, divisor ∣ columns width node.toList := by
  rw [indentStep_eq_gcd, Multiset.dvd_gcd]
  simp

theorem indentStep_dvd {nodes : List String} {node : String} (member : node ∈ nodes) :
    indentStep width nodes ∣ columns width node.toList :=
  dvd_indentStep_iff.mp (Nat.dvd_refl _) node member

theorem indentStep_eq_zero_iff {nodes : List String} :
    indentStep width nodes = 0 ↔ ∀ node ∈ nodes, columns width node.toList = 0 := by
  rw [indentStep_eq_gcd, Multiset.gcd_eq_zero_iff]
  simp

theorem gcd_mul (counts : List Nat) (k : Nat) :
    Multiset.gcd (counts.map (k * ·) : Multiset ℕ) = k * Multiset.gcd (counts : Multiset ℕ) := by
  rw [← Multiset.map_coe, Multiset.gcd_map_mul, normalize_eq]

/-- Where the columns of all texts are in one ratio to those of others, so is their common step. -/
theorem indentStep_map_mul {other p q : Nat} {nodes : List String} {f : String → String}
    (scaled : ∀ node ∈ nodes,
      p * columns other (f node).toList = q * columns width node.toList) :
    p * indentStep other (nodes.map f) = q * indentStep width nodes := by
  have counts : ((nodes.map f).map fun node => columns other node.toList).map (p * ·) =
      (nodes.map fun node => columns width node.toList).map (q * ·) := by
    rw [List.map_map, List.map_map, List.map_map]
    exact List.map_congr_left scaled
  rw [indentStep_eq_gcd, indentStep_eq_gcd, ← gcd_mul, ← gcd_mul, counts]

theorem effectiveWidth_pos (width : Nat) : 0 < effectiveWidth width := by
  unfold effectiveWidth defaultWidth
  split <;> omega

theorem outcome_reindent (opener : Opener) (width : Nat) (document : Path) (nodes : List String) :
    (Rule.apply opener (.reindent width) document nodes).outcome =
      .ok (reindent (effectiveWidth width) nodes) := by
  rw [Rule.apply, rescaleIndent, Run.outcome_within]
  dsimp only
  split <;> split <;> rfl

/-- No text that is made when texts are rescaled is longer than a text can be. -/
structure Fits (width : Nat) (nodes : List String) : Prop where
  tab : width ≤ maxSize
  expanded : ∀ node ∈ nodes, (String.ofList (expand width node.toList)).utf8ByteSize ≤ maxSize
  rescaled : ∀ node ∈ nodes,
    (rescale width (indentStep width nodes) node).utf8ByteSize ≤ maxSize

end Transclude.Indent
