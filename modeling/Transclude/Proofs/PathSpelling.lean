import Transclude.Proofs.PathSteps
import Transclude.Tree

/-!
How the steps of a path are spelled. In front of its inner steps, which go up or down by a name, a
path can have a slash or a `.`; the inner steps are those that can be read from the text between the
slashes, also where the text was put together from them.
-/

namespace Transclude

/-- A step behind the root of a path: up, or down by a name that can stand in a directory. -/
inductive Step.IsInner : Step → Prop
  | parent : IsInner .parent
  | name {text : String} : Place.isName text = true → IsInner (.name text)

theorem Place.isName_iff {name : String} :
    Place.isName name = true ↔ name ≠ "" ∧ name ≠ "." ∧ name ≠ ".." ∧ '/' ∉ name.toList := by
  simp [Place.isName, and_assoc]

namespace Path

theorem not_mem_of_mem_pieces {separator : Char} {written piece : List Char}
    (member : piece ∈ pieces separator written) : separator ∉ piece := by
  induction written generalizing piece with
  | nil =>
    rw [pieces, List.mem_singleton] at member
    rw [member]
    exact List.not_mem_nil
  | cons c rest ih =>
    rw [pieces] at member
    split at member
    · rcases List.mem_cons.mp member with rfl | later
      · exact List.not_mem_nil
      · exact ih later
    · next other =>
      split at member
      · rw [List.mem_singleton.mp member, List.mem_singleton]
        exact Ne.symm other
      · next first others split =>
        rw [split] at ih
        rcases List.mem_cons.mp member with rfl | later
        · exact List.not_mem_cons_of_ne_of_not_mem (Ne.symm other) (ih List.mem_cons_self)
        · exact ih (List.mem_cons_of_mem _ later)

theorem pieces_of_not_mem {separator : Char} {written : List Char} (whole : separator ∉ written) :
    pieces separator written = [written] := by
  induction written with
  | nil => rfl
  | cons c rest ih =>
    rw [List.mem_cons, not_or] at whole
    rw [pieces, if_neg (Ne.symm whole.1), ih whole.2]

theorem ofList_ne {piece : List Char} {text : String} (other : piece ≠ text.toList) :
    String.ofList piece ≠ text := fun same => other (by rw [← same, String.toList_ofList])

theorem isInner_of_mem_innerSteps {written : List Char} {step : Step}
    (member : step ∈ innerSteps written) : step.IsInner := by
  obtain ⟨piece, among, stands⟩ := List.mem_filterMap.mp member
  have slash := not_mem_of_mem_pieces among
  unfold innerStep? at stands
  split at stands
  · cases stands
  · cases stands
  · cases stands
    exact .parent
  · next empty current parent =>
    cases stands
    refine .name (Place.isName_iff.mpr ⟨ofList_ne empty, ofList_ne current, ofList_ne parent, ?_⟩)
    rwa [String.toList_ofList]

theorem isInner_of_mem_names {names : List String}
    (proper : ∀ name ∈ names, Place.isName name = true) :
    ∀ step ∈ names.map Step.name, step.IsInner := by
  intro step member
  obtain ⟨name, among, rfl⟩ := List.mem_map.mp member
  exact .name (proper name among)

/-! Steps behind the root are read from the text that writes them. -/

theorem innerSteps_text {step : Step} (inner : step.IsInner) :
    innerSteps step.text.toList = [step] := by
  cases inner with
  | parent => rfl
  | @name text named =>
    have ⟨empty, current, parent, slash⟩ := Place.isName_iff.mp named
    have stands : innerStep? text.toList = some (.name text) := by
      rw [innerStep?, String.ofList_toList]
      · exact fun same => empty (String.toList_inj.mp same)
      · exact fun same => current (String.toList_inj.mp same)
      · exact fun same => parent (String.toList_inj.mp same)
    show (pieces '/' text.toList).filterMap innerStep? = _
    rw [pieces_of_not_mem slash, List.filterMap_cons_some stands]
    rfl

theorem toList_intercalate_cons_cons (first next : String) (others : List String) :
    ("/".intercalate (first :: next :: others)).toList =
      first.toList ++ '/' :: ("/".intercalate (next :: others)).toList := by
  rw [String.intercalate_cons_cons, String.toList_append, String.toList_append, List.append_assoc]
  rfl

theorem innerSteps_intercalate {steps : List Step} (inner : ∀ step ∈ steps, step.IsInner) :
    innerSteps ("/".intercalate (steps.map Step.text)).toList = steps := by
  induction steps with
  | nil => rfl
  | cons step rest ih =>
    rw [List.forall_mem_cons] at inner
    cases rest with
    | nil =>
      rw [List.map_cons, List.map_nil, String.intercalate_singleton]
      exact innerSteps_text inner.1
    | cons next more =>
      rw [List.map_cons, List.map_cons, toList_intercalate_cons_cons, ← List.map_cons,
        innerSteps_append, innerSteps_text inner.1, ih inner.2]
      rfl

/-! The step in front of the inner ones. -/

/-- What a path can have in front of its inner steps. -/
inductive IsLead : List Step → Prop
  | root : IsLead [.root]
  | current : IsLead [.current]
  | none : IsLead []

theorem isAbsolute_intercalate {first : String} (empty : first ≠ "")
    (slash : first.toList.head? ≠ some '/') (others : List String) :
    (Path.mk ("/".intercalate (first :: others))).isAbsolute = false := by
  have opens : ∃ rest, ("/".intercalate (first :: others)).toList = first.toList ++ rest := by
    cases others with
    | nil => exact ⟨[], by rw [String.intercalate_singleton, List.append_nil]⟩
    | cons next more => exact ⟨_, toList_intercalate_cons_cons first next more⟩
  obtain ⟨rest, text⟩ := opens
  rw [isAbsolute, text, List.head?_append_of_ne_nil _ (mt String.toList_eq_nil_iff.mp empty)]
  exact beq_eq_false_iff_ne.mpr slash

theorem text_of_isInner {step : Step} (inner : step.IsInner) :
    step.text ≠ "" ∧ step.text.toList.head? ≠ some '/' := by
  cases inner with
  | parent => exact ⟨by decide, by decide⟩
  | name named =>
    have ⟨empty, _, _, slash⟩ := Place.isName_iff.mp named
    exact ⟨empty, fun first => slash (List.mem_of_mem_head? first)⟩

theorem ofSteps_of_isInner {steps : List Step} (inner : ∀ step ∈ steps, step.IsInner) :
    ofSteps steps = ⟨"/".intercalate (steps.map Step.text)⟩ := by
  cases steps with
  | nil => rfl
  | cons step rest => cases inner step List.mem_cons_self <;> rfl

/-- The inner steps of a path can be read from its spelling. -/
theorem innerSteps_ofSteps {lead inner : List Step} (opens : IsLead lead)
    (proper : ∀ step ∈ inner, step.IsInner) :
    innerSteps (ofSteps (lead ++ inner)).text.toList = inner := by
  cases opens with
  | root =>
    have spelled : (ofSteps (.root :: inner)).text.toList =
        [] ++ '/' :: ("/".intercalate (inner.map Step.text)).toList := String.toList_append
    show innerSteps (ofSteps (.root :: inner)).text.toList = inner
    rw [spelled, innerSteps_append, innerSteps_intercalate proper]
    rfl
  | current =>
    show innerSteps ("/".intercalate ("." :: inner.map Step.text)).toList = inner
    cases inner with
    | nil => rfl
    | cons step rest =>
      rw [List.map_cons, toList_intercalate_cons_cons, ← List.map_cons, innerSteps_append,
        innerSteps_intercalate proper]
      rfl
  | none =>
    rw [List.nil_append, ofSteps_of_isInner proper]
    exact innerSteps_intercalate proper

theorem isAbsolute_ofSteps {lead inner : List Step} (opens : IsLead lead)
    (proper : ∀ step ∈ inner, step.IsInner) :
    (ofSteps (lead ++ inner)).isAbsolute = true ↔ lead = [.root] := by
  cases opens with
  | root =>
    refine iff_of_true ?_ rfl
    show (("/" ++ "/".intercalate (inner.map Step.text)).toList.head? == some '/') = true
    rw [String.toList_append]
    rfl
  | current =>
    refine iff_of_false (Bool.eq_false_iff.mp ?_) (by decide)
    exact isAbsolute_intercalate (by decide) (by decide) (inner.map Step.text)
  | none =>
    refine iff_of_false (Bool.eq_false_iff.mp ?_) (by decide)
    rw [List.nil_append, ofSteps_of_isInner proper]
    cases inner with
    | nil => rfl
    | cons step rest =>
      have ⟨empty, slash⟩ := text_of_isInner (proper step List.mem_cons_self)
      exact isAbsolute_intercalate empty slash (rest.map Step.text)

/-- A path begins with a slash, with a `.` or with an inner step. -/
theorem exists_lead (path : Path) :
    ∃ lead, IsLead lead ∧ path.steps = lead ++ innerSteps path.text.toList ∧
      (path.isAbsolute = true ↔ lead = [.root]) := by
  unfold steps
  split
  · next rest written =>
    refine ⟨[.root], .root, ?_, ?_⟩
    · rw [written]
      exact congrArg (List.cons Step.root) (innerSteps_append [] rest).symm
    · rw [isAbsolute, written]
      exact iff_of_true rfl rfl
  · next written relative =>
    have first : ¬path.isAbsolute = true := by
      intro absolute
      exact relative _ (List.eq_cons_of_mem_head? (beq_iff_eq.mp absolute))
    split
    · next others opens =>
      refine ⟨[.current], .current, ?_, iff_of_false first (by decide)⟩
      rw [innerSteps, opens]
      rfl
    · exact ⟨[], .none, rfl, iff_of_false first (by decide)⟩

end Path

end Transclude
