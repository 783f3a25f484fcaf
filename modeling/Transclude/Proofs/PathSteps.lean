import Mathlib.Data.List.Basic
import Transclude.Path

/-!
The steps of a joined path. Behind the root, if a path has one, its steps are those of the pieces
between its slashes, and joining puts the pieces of one path behind those of another. So the steps
of a joined path are those of both, and its normal form takes no more of a directory than the
directory's own normal form.
-/

namespace Transclude

namespace Path

theorem pieces_ne_nil (separator : Char) (written : List Char) : pieces separator written ≠ [] := by
  cases written with
  | nil => exact List.cons_ne_nil _ _
  | cons c rest =>
    rw [pieces]
    split
    · exact List.cons_ne_nil _ _
    · split <;> exact List.cons_ne_nil _ _

theorem pieces_append (separator : Char) (front back : List Char) :
    pieces separator (front ++ separator :: back) =
      pieces separator front ++ pieces separator back := by
  induction front with
  | nil =>
    show pieces separator (separator :: back) = [] :: pieces separator back
    rw [pieces, if_pos rfl]
  | cons c rest ih =>
    rw [List.cons_append, pieces, pieces, ih]
    by_cases here : c = separator
    · rw [if_pos here, if_pos here, List.cons_append]
    · rw [if_neg here, if_neg here]
      cases found : pieces separator rest with
      | nil => exact absurd found (pieces_ne_nil separator rest)
      | cons first others => rfl

/-- The steps behind the root. -/
def innerSteps (written : List Char) : List Step := (pieces '/' written).filterMap innerStep?

theorem innerSteps_append (front back : List Char) :
    innerSteps (front ++ '/' :: back) = innerSteps front ++ innerSteps back := by
  rw [innerSteps, pieces_append, List.filterMap_append]
  rfl

/-- The step that a written path has in front of the inner ones, if it has one. -/
def leadStep (written : List Char) : List Step :=
  if written.head? = some '/' then [.root]
  else if (pieces '/' written).head? = some ['.'] then [.current]
  else []

theorem steps_eq (path : Path) :
    path.steps = leadStep path.text.toList ++ innerSteps path.text.toList := by
  rw [steps, leadStep]
  split
  · next rest written =>
    rw [written, List.head?_cons, if_pos rfl]
    exact congrArg (List.cons Step.root) (innerSteps_append [] rest).symm
  · next written relative =>
    have first : path.text.toList.head? ≠ some '/' :=
      fun first => relative _ (List.eq_cons_of_mem_head? first)
    rw [if_neg first, innerSteps]
    split
    · next others current =>
      rw [current, List.head?_cons, if_pos rfl]
      rfl
    · next other =>
      have solid : (pieces '/' path.text.toList).head? ≠ some ['.'] :=
        fun current => other _ (List.eq_cons_of_mem_head? current)
      rw [if_neg solid, List.nil_append]

theorem leadStep_append (front back : List Char) :
    leadStep (front ++ '/' :: back) = leadStep (front ++ ['/']) := by
  have first : (front ++ '/' :: back).head? = (front ++ ['/']).head? := by cases front <;> rfl
  rw [leadStep, leadStep, first, pieces_append, pieces_append,
    List.head?_append_of_ne_nil _ (pieces_ne_nil '/' front),
    List.head?_append_of_ne_nil _ (pieces_ne_nil '/' front)]

theorem leadStep_slash {front : List Char} (nonempty : front ≠ []) :
    leadStep (front ++ ['/']) = leadStep front := by
  rw [leadStep, leadStep, pieces_append, List.head?_append_of_ne_nil _ nonempty,
    List.head?_append_of_ne_nil _ (pieces_ne_nil '/' front)]

/-- Where a written path leads, the last step first: a path with a slash in front begins at the
root. -/
def walked (written : List Char) : List Step :=
  (innerSteps written).foldl walk (if written.head? = some '/' then [.root] else [])

/-- Behind a slash a path goes on from where the part up to it leads. -/
theorem walked_append (front back : List Char) :
    walked (front ++ '/' :: back) = (innerSteps back).foldl walk (walked (front ++ ['/'])) := by
  have first : (front ++ '/' :: back).head? = (front ++ ['/']).head? := by cases front <;> rfl
  have closed : innerSteps (front ++ ['/']) = innerSteps front :=
    (innerSteps_append front []).trans (List.append_nil _)
  rw [walked, walked, first, innerSteps_append, closed, List.foldl_append]

theorem walked_slash {front : List Char} (nonempty : front ≠ []) :
    walked (front ++ ['/']) = walked front := by
  have closed : innerSteps (front ++ ['/']) = innerSteps front :=
    (innerSteps_append front []).trans (List.append_nil _)
  rw [walked, walked, closed, List.head?_append_of_ne_nil _ nonempty]

/-- The normal form says where a path leads; a first step that stays does not show in it. -/
theorem normalSteps_eq (path : Path) : path.normalSteps = (walked path.text.toList).reverse := by
  rw [normalSteps, steps, walked]
  refine congrArg List.reverse ?_
  split
  · next rest written => rw [written]; rfl
  · next written relative =>
    have first : path.text.toList.head? ≠ some '/' :=
      fun first => relative _ (List.eq_cons_of_mem_head? first)
    rw [if_neg first, innerSteps]
    split
    · next others first => rw [first]; rfl
    · rfl

/-- How a path joined to a directory is written: an empty directory gets no slash, and one that ends
with a slash needs none. -/
theorem join_cases {target : Path} (relative : target.isAbsolute = false) (directory : Path) :
    directory.text.toList = [] ∧ directory.join target = target ∨
      ∃ front, (directory.join target).text.toList = front ++ '/' :: target.text.toList ∧
        (directory.text.toList = front ++ ['/'] ∨ directory.text.toList = front ∧ front ≠ []) := by
  rw [join, if_neg (by simp [relative])]
  by_cases empty : directory.text.toList = []
  · have closed : directory.text.isEmpty = true := by simpa using empty
    have blank : directory.text = "" := String.toList_eq_nil_iff.mp empty
    rw [closed, Bool.true_or, if_pos rfl, blank, String.empty_append]
    exact .inl ⟨rfl, rfl⟩
  · have unempty : directory.text.isEmpty = false := by simpa using empty
    rw [unempty, Bool.false_or]
    by_cases ends : directory.text.toList.getLast? = some '/'
    · obtain ⟨front, split⟩ := List.getLast?_eq_some_iff.mp ends
      rw [if_pos (by simp [ends]), String.toList_append, split]
      exact .inr ⟨front, by simp, .inl rfl⟩
    · rw [if_neg (by simpa using ends), String.toList_append, String.toList_append]
      exact .inr ⟨directory.text.toList, by simp, .inr ⟨rfl, empty⟩⟩

/-- A target that begins with an inner step adds its steps to those of its directory. -/
theorem steps_join {target : Path} (relative : target.isAbsolute = false)
    (inner : target.steps = innerSteps target.text.toList) (directory : Path) :
    (directory.join target).steps = directory.steps ++ target.steps := by
  rcases join_cases relative directory with ⟨empty, alone⟩ | ⟨front, written, closed⟩
  · rw [alone, steps_eq directory, empty]
    rfl
  · have opened : innerSteps (front ++ ['/']) = innerSteps front :=
      (innerSteps_append front []).trans (List.append_nil _)
    have same : directory.steps = leadStep (front ++ ['/']) ++ innerSteps front := by
      rcases closed with split | ⟨split, nonempty⟩
      · rw [steps_eq, split, opened]
      · rw [steps_eq, split, leadStep_slash nonempty]
    rw [steps_eq, written, leadStep_append, innerSteps_append, ← List.append_assoc, ← same, inner]

/-- A relative target goes on from where its directory leads. -/
theorem normalSteps_join {target : Path} (relative : target.isAbsolute = false)
    (directory : Path) :
    (directory.join target).normalSteps =
      ((innerSteps target.text.toList).foldl walk directory.normalSteps.reverse).reverse := by
  have first : target.text.toList.head? ≠ some '/' := by
    simpa [isAbsolute] using relative
  rw [normalSteps_eq directory, List.reverse_reverse]
  rcases join_cases relative directory with ⟨empty, alone⟩ | ⟨front, written, closed⟩
  · rw [alone, normalSteps_eq, walked, if_neg first, empty]
    rfl
  · have same : walked directory.text.toList = walked (front ++ ['/']) := by
      rcases closed with split | ⟨split, nonempty⟩
      · rw [split]
      · rw [split, walked_slash nonempty]
    rw [normalSteps_eq, written, walked_append, same]

/-- Paths of which the directories have one normal form. -/
def SameDirectory (first second : Path) : Prop :=
  (first.parent?.getD ⟨""⟩).normalSteps = (second.parent?.getD ⟨""⟩).normalSteps

/-- A target leads to the same place from all documents of a directory. -/
theorem SameDirectory.resolve_eq {first second : Path} (near : SameDirectory first second)
    (target : Path) : first.resolve target = second.resolve target := by
  have same : ((first.parent?.getD ⟨""⟩).join target).normalSteps =
      ((second.parent?.getD ⟨""⟩).join target).normalSteps := by
    cases absolute : target.isAbsolute with
    | true => rw [join, if_pos absolute, join, if_pos absolute]
    | false => rw [normalSteps_join absolute, normalSteps_join absolute, near]
  rw [resolve, resolve, normalize, normalize, same]

end Path

end Transclude
