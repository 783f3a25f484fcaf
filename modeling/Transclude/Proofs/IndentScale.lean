import Transclude.Proofs.IndentSteps

/-!
What rescaling forgets. The result depends on how many steps each text is indented, and not on how
many columns a step had before. So a second rescaling has the last word, and widening all steps by
one factor beforehand changes nothing.
-/

namespace Transclude.Indent

/-- A node with its tabs replaced by `width` spaces each. -/
def expandNode (width : Nat) (node : String) : String := String.ofList (expand width node.toList)

/-- A node with `times` as many spaces in front of it. -/
def widen (times : Nat) (node : String) : String :=
  String.ofList (List.replicate (times * (node.toList.takeWhile (· == ' ')).length) ' ' ++
    node.toList.dropWhile (· == ' '))

/-- Nodes without tabs. -/
def TabFree (nodes : List String) : Prop := ∀ node ∈ nodes, '\t' ∉ node.toList

instance (nodes : List String) : Decidable (TabFree nodes) :=
  inferInstanceAs (Decidable (∀ node ∈ nodes, '\t' ∉ node.toList))

variable {width : Nat} {nodes : List String}

/-! Texts without tabs. -/

/-- Without tabs the columns are the spaces in front, whatever the width is. -/
theorem columns_of_tabFree {text : List Char} (tabs : '\t' ∉ text) (width other : Nat) :
    columns width text = columns other text := by
  have none : (text.takeWhile isBlank).count '\t' = 0 :=
    List.count_eq_zero.mpr fun member => tabs (List.takeWhile_subset _ member)
  rw [columns_eq_count, columns_eq_count, none, Nat.mul_zero, Nat.mul_zero]

theorem tab_not_mem_body {text : List Char} (tabs : '\t' ∉ text) : '\t' ∉ body text :=
  fun member => tabs ((List.dropWhile_suffix _).subset member)

theorem spaces_of_tabFree {text : List Char} (tabs : '\t' ∉ text) (width : Nat) :
    (text.takeWhile (· == ' ')).length = columns width text ∧
      text.dropWhile (· == ' ') = body text := by
  induction text with
  | nil => exact ⟨rfl, rfl⟩
  | cons c text ih =>
    rw [List.mem_cons, not_or] at tabs
    by_cases space : c = ' '
    · subst space
      obtain ⟨count, rest⟩ := ih tabs.2
      rw [List.takeWhile_cons_of_pos rfl, List.dropWhile_cons_of_pos rfl, List.length_cons, count,
        rest, columns]
      exact ⟨rfl, rfl⟩
    · have other : ∀ d ∈ (c :: text).head?, d ≠ ' ' ∧ d ≠ '\t' := by
        rintro d ⟨⟩
        exact ⟨space, Ne.symm tabs.1⟩
      rw [List.takeWhile_cons_of_neg (by simpa using space),
        List.dropWhile_cons_of_neg (by simpa using space), columns_of_head other,
        body_of_head other]
      exact ⟨rfl, rfl⟩

theorem widen_eq {node : String} (tabs : '\t' ∉ node.toList) (times width : Nat) :
    widen times node = String.ofList (List.replicate (times * columns width node.toList) ' ' ++
      expand width (body node.toList)) := by
  obtain ⟨count, rest⟩ := spaces_of_tabFree tabs width
  rw [widen, count, rest, expand_of_not_mem (tab_not_mem_body tabs)]

theorem widen_of_unindented {node : String} (tabs : '\t' ∉ node.toList)
    (none : columns width node.toList = 0) (times : Nat) : widen times node = node := by
  have whole := expand_eq width node.toList
  rw [none, List.replicate_zero, List.nil_append, expand_of_not_mem tabs] at whole
  rw [widen_eq tabs times width, none, Nat.mul_zero, List.replicate_zero, List.nil_append, ← whole,
    String.ofList_toList]

/-! One ratio. -/

/-- Two counts in one ratio are the same multiples of two steps in this ratio. -/
theorem div_eq_of_ratio {a b unit unit' p q : Nat} (counts : p * a = q * b)
    (units : p * unit = q * unit') (factor : 0 < p) (positive : 0 < unit) (positive' : 0 < unit')
    (whole : unit' ∣ b) : a / unit = b / unit' := by
  obtain ⟨m, rfl⟩ := whole
  have same : a = unit * m := by
    apply Nat.eq_of_mul_eq_mul_left factor
    calc p * a = q * unit' * m := by rw [counts, Nat.mul_assoc]
      _ = p * (unit * m) := by rw [← units, Nat.mul_assoc]
  rw [same, Nat.mul_div_cancel_left _ positive, Nat.mul_div_cancel_left _ positive']

/-- Nodes with the same rests, whose columns are all in one ratio to those of others, are rescaled
to the same. -/
theorem reindent_map {f : String → String} {p q : Nat} (factor : 0 < p) (factor' : 0 < q)
    (scaled : ∀ node ∈ nodes, p * columns width (f node).toList = q * columns width node.toList)
    (rests : ∀ node ∈ nodes,
      expand width (body (f node).toList) = expand width (body node.toList))
    (indented : indentStep width nodes ≠ 0) :
    reindent width (nodes.map f) = reindent width nodes := by
  have units := indentStep_map_mul scaled
  have positive := Nat.pos_of_ne_zero indented
  have positive' : 0 < indentStep width (nodes.map f) := by
    apply Nat.pos_of_ne_zero
    intro none
    rw [none, Nat.mul_zero] at units
    exact Nat.ne_of_lt (Nat.mul_pos factor' positive) units
  rw [reindent, reindent, if_neg indented, if_neg (Nat.ne_of_gt positive'), List.map_map]
  apply List.map_congr_left
  intro node member
  have steps := div_eq_of_ratio (scaled node member) units factor positive' positive
    (indentStep_dvd member)
  rw [Function.comp_apply, rescale_eq, rescale_eq, rests node member, steps]

/-! Two rescalings. -/

theorem reindent_of_unindented (none : indentStep width nodes = 0) :
    reindent width nodes = nodes := if_pos none

/-- To a second rescaling a rescaled document is what the document itself is, if the columns and the
rests of all nodes are the same for both widths. -/
theorem reindent_reindent {other : Nat} (wide : 0 < width)
    (counts : ∀ node ∈ nodes, columns other node.toList = columns width node.toList)
    (rests : ∀ node ∈ nodes,
      expand other (expand width (body node.toList)) = expand other (body node.toList)) :
    reindent other (reindent width nodes) = reindent other nodes := by
  by_cases none : indentStep width nodes = 0
  · rw [reindent_of_unindented none]
  · have rescaled : reindent width nodes = nodes.map (rescale width (indentStep width nodes)) :=
      if_neg none
    have step : indentStep other nodes = indentStep width nodes :=
      congrArg (List.foldl Nat.gcd 0) (List.map_congr_left counts)
    rw [rescaled]
    apply reindent_map (Nat.pos_of_ne_zero none) wide
    · intro node member
      rw [columns_rescale, counts node member, ← Nat.mul_assoc,
        Nat.mul_div_cancel' (indentStep_dvd member), Nat.mul_comm]
    · intro node member
      rw [body_rescale, rests node member]
    · rw [step]
      exact none

theorem expand_expand (width other : Nat) (text : List Char) :
    expand other (expand width text) = expand width text :=
  expand_of_not_mem (tab_not_mem_expand width text)

theorem reindent_twice (wide : 0 < width) (nodes : List String) :
    reindent width (reindent width nodes) = reindent width nodes :=
  reindent_reindent wide (fun _ _ => rfl) fun _ _ => expand_expand width width _

theorem reindent_reindent_of_tabFree (tabs : TabFree nodes) (wide : 0 < width) (other : Nat) :
    reindent other (reindent width nodes) = reindent other nodes :=
  reindent_reindent wide (fun node member => columns_of_tabFree (tabs node member) other width)
    fun node member => by rw [expand_of_not_mem (tab_not_mem_body (tabs node member))]

/-! Changes before a rescaling. -/

theorem reindent_widen {times : Nat} (positive : 0 < times) (tabs : TabFree nodes) (width : Nat) :
    reindent width (nodes.map (widen times)) = reindent width nodes := by
  by_cases none : indentStep width nodes = 0
  · -- no node has a space in front of it that could be repeated
    have same : nodes.map (widen times) = nodes.map id :=
      List.map_congr_left fun node member =>
        widen_of_unindented (tabs node member) (indentStep_eq_zero_iff.mp none node member) times
    rw [same, List.map_id]
  · apply reindent_map Nat.one_pos positive
    · intro node member
      rw [widen_eq (tabs node member) times width, String.toList_ofList, columns_indented,
        Nat.one_mul]
    · intro node member
      rw [widen_eq (tabs node member) times width, String.toList_ofList, body_indented,
        expand_expand]
    · exact none

theorem reindent_expandNode (indented : indentStep width nodes ≠ 0) :
    reindent width (nodes.map (expandNode width)) = reindent width nodes := by
  apply reindent_map Nat.one_pos Nat.one_pos _ _ indented
  · intro node _
    rw [expandNode, String.toList_ofList, columns_expand]
  · intro node _
    rw [expandNode, String.toList_ofList, body_expand, expand_expand]

/-- The rule of a width makes one document of another. -/
def Reindents (opener : Opener) (document : Path) (width : Nat) (nodes output : List String) :
    Prop :=
  (Rule.apply opener (.reindent width) document nodes).outcome = .ok output

/-- Rescaling forgets the scale of a document and keeps everything else. A second rescaling to the
same width changes nothing. For documents without tabs the last of several widths counts, and any
factor of all indentation beforehand does not. Where something is indented, tabs and as many spaces
as the width are the same. -/
theorem reindent_forgets_scale (opener : Opener) (document : Path) :
    (∀ width nodes, ∃ output, Reindents opener document width nodes output ∧
      Reindents opener document width output output) ∧
    (∀ width width' nodes, TabFree nodes → ∃ first second,
      Reindents opener document width nodes first ∧
      Reindents opener document width' first second ∧
      Reindents opener document width' nodes second) ∧
    (∀ width times nodes, 1 ≤ times → TabFree nodes → ∃ output,
      Reindents opener document width nodes output ∧
      Reindents opener document width (nodes.map (widen times)) output) ∧
    ∀ width nodes, (∃ node ∈ nodes, 0 < columns (effectiveWidth width) node.toList) → ∃ output,
      Reindents opener document width nodes output ∧
      Reindents opener document width (nodes.map (expandNode (effectiveWidth width))) output := by
  have reindents : ∀ width nodes output, reindent (effectiveWidth width) nodes = output →
      Reindents opener document width nodes output := by
    rintro width nodes _ rfl
    exact outcome_reindent opener width document nodes
  refine ⟨fun width nodes => ⟨_, reindents _ _ _ rfl, reindents _ _ _ ?_⟩,
    fun width width' nodes tabs =>
      ⟨_, _, reindents _ _ _ rfl, reindents _ _ _ ?_, reindents _ _ _ rfl⟩,
    fun width times nodes positive tabs => ⟨_, reindents _ _ _ rfl, reindents _ _ _ ?_⟩,
    fun width nodes ⟨node, member, indented⟩ => ⟨_, reindents _ _ _ rfl, reindents _ _ _ ?_⟩⟩
  · exact reindent_twice (effectiveWidth_pos width) nodes
  · exact reindent_reindent_of_tabFree tabs (effectiveWidth_pos width) _
  · exact reindent_widen positive tabs _
  · refine reindent_expandNode fun none => ?_
    exact Nat.ne_of_gt indented (indentStep_eq_zero_iff.mp none node member)

/-- A nested list by way of another width and with three times its indentation, and a line with tabs
and the spaces for them. -/
theorem nestedList_rescaled :
    TabFree ["- a\n", "    - b\n", "        - c\n"] ∧
      Reindents (fun _ => .error .notFound) ⟨"d"⟩ 3 ["- a\n", "    - b\n", "        - c\n"]
        ["- a\n", "   - b\n", "      - c\n"] ∧
      Reindents (fun _ => .error .notFound) ⟨"d"⟩ 2 ["- a\n", "   - b\n", "      - c\n"]
        ["- a\n", "  - b\n", "    - c\n"] ∧
      Reindents (fun _ => .error .notFound) ⟨"d"⟩ 2
        (["- a\n", "    - b\n", "        - c\n"].map (widen 3)) ["- a\n", "  - b\n", "    - c\n"] ∧
      0 < columns (effectiveWidth 0) "\ta\tb\n".toList ∧
      Reindents (fun _ => .error .notFound) ⟨"d"⟩ 0 ["  a  b\n"] ["  a  b\n"] := by
  have tabs : TabFree ["- a\n", "    - b\n", "        - c\n"] := by decide
  have indented : 0 < columns (effectiveWidth 0) "\ta\tb\n".toList := by decide
  obtain ⟨-, composed, widened, expanded⟩ :=
    reindent_forgets_scale (fun _ => .error .notFound) ⟨"d"⟩
  have wide : Reindents (fun _ => .error .notFound) ⟨"d"⟩ 3 ["- a\n", "    - b\n", "        - c\n"]
      ["- a\n", "   - b\n", "      - c\n"] := by rfl
  have narrow : Reindents (fun _ => .error .notFound) ⟨"d"⟩ 2
      ["- a\n", "    - b\n", "        - c\n"] ["- a\n", "  - b\n", "    - c\n"] := by rfl
  obtain ⟨first, second, ran, again, direct⟩ := composed 3 2 _ tabs
  cases ran.symm.trans wide
  cases direct.symm.trans narrow
  obtain ⟨output, before, after⟩ := widened 2 3 _ (by decide) tabs
  cases before.symm.trans narrow
  obtain ⟨line, before', after'⟩ := expanded 0 ["\ta\tb\n"] ⟨_, List.mem_singleton_self _, indented⟩
  have plain : Reindents (fun _ => .error .notFound) ⟨"d"⟩ 0 ["\ta\tb\n"] ["  a  b\n"] := by rfl
  cases before'.symm.trans plain
  exact ⟨tabs, wide, again, after, indented, after'⟩

end Transclude.Indent
