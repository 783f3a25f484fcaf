import Transclude.Proofs.PathPlaces

/-!
Where the target of a block leads. Joined to a directory, a target leads where it does from the
place of the directory; so the place of a target is that to which it leads from the directory of
its document, however the two are spelled, and the file that is opened for it has one name.
-/

namespace Transclude

namespace Path

/-- A joined path leads where the target does from the place of the directory. -/
theorem placeFrom_join (place : Place) (directory target : Path) :
    (directory.join target).placeFrom place = target.placeFrom (directory.placeFrom place) := by
  cases absolute : target.isAbsolute with
  | true =>
    rw [join, if_pos absolute, placeFrom, placeFrom, Tree.start, Tree.start, if_pos absolute,
      if_pos absolute]
  | false =>
    obtain ⟨before, shape, steps⟩ := directory.normalSteps_walked
    have relative : ∀ start, Tree.start start target = start := fun start => by
      rw [Tree.start, absolute]
      rfl
    calc (directory.join target).placeFrom place
      _ = place.after ((innerSteps target.text.toList).foldl walk before).reverse := by
        rw [placeFrom_eq_after, normalSteps_join absolute, steps, List.reverse_reverse]
      _ = (place.after before.reverse).after (innerSteps target.text.toList) :=
        (shape.foldl_walk fun _ => isInner_of_mem_innerSteps).2 place
      _ = target.placeFrom (directory.placeFrom place) := by
        rw [placeFrom_eq _ target, relative, placeFrom_eq_after place directory, steps]

/-! The directory of a document. -/

theorem getLast?_lead {lead inner : List Step} (opens : IsLead lead) (name : String) :
    (lead ++ inner).getLast? = some (.name name) ↔ inner.getLast? = some (.name name) := by
  cases inner with
  | nil => cases opens <;> simp
  | cons step rest => rw [List.getLast?_append_of_ne_nil _ (List.cons_ne_nil step rest)]

/-- A path that ends in a name stands in a directory, and its own directory leads there. -/
theorem placeFrom_directory {document : Path} {name : String}
    (named : document.steps.getLast? = some (.name name)) (start : Place) :
    document.placeFrom start = (document.parent?.getD ⟨""⟩).placeFrom start ++ [name] := by
  obtain ⟨lead, opens, steps, -⟩ := document.exists_lead
  rw [steps, getLast?_lead opens] at named
  obtain ⟨front, split⟩ := List.getLast?_eq_some_iff.mp named
  have proper : ∀ step ∈ front, step.IsInner := fun step member =>
    isInner_of_mem_innerSteps (split ▸ List.mem_append_left _ member)
  rw [split, ← List.append_assoc] at steps
  have parent : document.parent? = some (ofSteps (lead ++ front)) := by
    unfold parent?
    split
    · next none =>
      rw [none] at steps
      exact absurd steps.symm (List.concat_ne_nil _ _)
    · next root =>
      rw [root] at steps
      have last := congrArg List.getLast? steps
      rw [List.getLast?_concat] at last
      cases last
    · rw [steps, List.dropLast_concat]
  rw [placeFrom_eq_steps, steps, parent, Option.getD_some, placeFrom_ofSteps opens proper,
    Place.after_concat]
  rfl

/-- The normal form of a path ends in the name in which the path ends. -/
theorem getLast?_normalize {path : Path} {name : String}
    (named : path.steps.getLast? = some (.name name)) :
    path.normalize.steps.getLast? = some (.name name) := by
  obtain ⟨front, split⟩ := List.getLast?_eq_some_iff.mp named
  have last : path.normalSteps.getLast? = some (.name name) := by
    rw [normalSteps, split, List.foldl_append, List.foldl_cons, List.foldl_nil]
    show (Step.name name :: front.foldl walk []).reverse.getLast? = _
    rw [List.reverse_cons, List.getLast?_concat]
  obtain ⟨before, shape, walked⟩ := path.normalSteps_walked
  obtain ⟨lead, inner, opens, proper, same⟩ := shape.exists_lead
  rw [walked, same, getLast?_lead opens] at last
  obtain ⟨lead', opens', steps, -⟩ := path.normalize.exists_lead
  rw [steps, getLast?_lead opens', normalize, walked, same, innerSteps_ofSteps opens proper]
  exact last

/-! Targets. -/

theorem placeFrom_resolve (document target : Path) (start : Place) :
    (document.resolve target).placeFrom start =
      target.placeFrom ((document.parent?.getD ⟨""⟩).placeFrom start) := by
  rw [resolve, placeFrom_normalize, placeFrom_join]

theorem normalize_join (directory target : Path) :
    (directory.join target).normalize = (directory.normalize.join target.normalize).normalize :=
  normalize_eq_iff.mpr fun place _ => by
    rw [placeFrom_join, placeFrom_join, placeFrom_normalize, placeFrom_normalize]

theorem normalize_resolve (document target : Path) :
    (document.resolve target).normalize = document.resolve target := normalize_normalize _

/-- Targets that lead to the same place from the directories of their documents are one path. -/
theorem resolve_eq_of_place {document other target target' : Path}
    (same : ∀ start : Place, (document.resolve target).placeFrom start =
      (other.resolve target').placeFrom start) :
    document.resolve target = other.resolve target' := by
  rw [← normalize_resolve document, ← normalize_resolve other]
  exact normalize_eq_iff.mpr fun start _ => same start

theorem resolve_normalize (document target : Path) :
    document.resolve target.normalize = document.resolve target :=
  resolve_eq_of_place fun start => by
    rw [placeFrom_resolve, placeFrom_resolve, placeFrom_normalize]

theorem normalize_resolve_document {document : Path} {name : String}
    (named : document.steps.getLast? = some (.name name)) (target : Path) :
    document.normalize.resolve target = document.resolve target :=
  resolve_eq_of_place fun start => by
    have stands := placeFrom_normalize start document
    rw [placeFrom_directory named, placeFrom_directory (getLast?_normalize named)] at stands
    rw [placeFrom_resolve, placeFrom_resolve, List.append_cancel_right stands]

theorem resolve_of_isAbsolute {target : Path} (absolute : target.isAbsolute = true)
    (document : Path) : document.resolve target = target.normalize := by
  rw [resolve, join, if_pos absolute]

/-- A target leads to the same place, under the same name, however it and its document are spelled:
to the place to which it leads from the directory in which the document stands. -/
theorem resolve_eq_any_spelling :
    (∀ (document : Path) (name : String), document.steps.getLast? = some (.name name) →
      ∀ target : Path,
        document.resolve target = document.normalize.resolve target ∧
        document.resolve target = document.resolve target.normalize ∧
        document.resolve target = (document.resolve target).normalize ∧
        ∀ start, ∃ directory, document.placeFrom start = directory ++ [name] ∧
          (document.resolve target).placeFrom start = target.placeFrom directory) ∧
    (∀ document target : Path, target.isAbsolute = true →
      document.resolve target = target.normalize) ∧
    ∀ directory target : Path, (directory.join target).normalize =
      (directory.normalize.join target.normalize).normalize := by
  refine ⟨fun document name named target => ⟨?_, ?_, ?_, fun start => ?_⟩, ?_, normalize_join⟩
  · exact (normalize_resolve_document named target).symm
  · exact (resolve_normalize document target).symm
  · exact (normalize_resolve document target).symm
  · exact ⟨_, placeFrom_directory named start, placeFrom_resolve document target start⟩
  · exact fun document target absolute => resolve_of_isAbsolute absolute document

/-- A target above the directory of a document that is spelled with a detour. -/
theorem detour_resolved :
    (Path.mk "./docs//a/../guide.md/").steps.getLast? = some (.name "guide.md") ∧
      (Path.mk "docs/guide.md").resolve ⟨"../../src/./x.md"⟩ =
        (Path.mk "./docs//a/../guide.md/").resolve ⟨"../../src/./x.md"⟩ ∧
      (Path.mk "../src/x.md").normalize =
        (Path.mk "./docs//a/../guide.md/").resolve ⟨"../../src/./x.md"⟩ := by
  have named : (Path.mk "./docs//a/../guide.md/").steps.getLast? = some (.name "guide.md") := by
    decide
  have ⟨first, _, third, _⟩ := resolve_eq_any_spelling.1 _ _ named ⟨"../../src/./x.md"⟩
  exact ⟨named, first.symm, third.symm⟩

end Path

end Transclude
