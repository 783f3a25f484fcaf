import Transclude.Proofs.PathPlaces

/-!
Files in memory through a history of insertions. Under a path is found what was inserted last under
any path that leads to the same place; what is inserted elsewhere, and in which order, does not
matter.
-/

namespace Transclude

namespace FileSet

variable {files others : FileSet} {path asked : Path} {entry : Entry}

/-- The files after insertions, each of an entry under a path as it was written. -/
def insertAll (files : FileSet) (history : List (Path × Entry)) : FileSet :=
  history.foldl (fun files item => files.insert item.1 item.2) files

theorem insertAll_append (files : FileSet) (earlier later : List (Path × Entry)) :
    files.insertAll (earlier ++ later) = (files.insertAll earlier).insertAll later :=
  List.foldl_append

/-! One insertion. -/

theorem get?_insert_of_same (same : path.SamePlace asked) :
    (files.insert path entry).get? asked = some entry := by
  rw [get?, insert, Path.normalize_eq_iff.mpr same, List.find?_cons_of_pos (by simp)]
  rfl

theorem get?_insert_of_elsewhere (elsewhere : ¬path.SamePlace asked) :
    (files.insert path entry).get? asked = files.get? asked := by
  have apart : path.normalize ≠ asked.normalize := mt Path.normalize_eq_iff.mp elsewhere
  have kept : ∀ item : Path × Entry,
      decide ((item.1 != path.normalize) = true ∧ (item.1 == asked.normalize) = true) =
        (item.1 == asked.normalize) := by
    intro item
    cases found : item.1 == asked.normalize with
    | false => simp
    | true => simpa [beq_iff_eq.mp found] using apart.symm
  rw [get?, insert, List.find?_cons_of_neg (by simpa using apart), List.find?_filter,
    funext kept]
  rfl

/-- File sets in which the same is found go on to be such. -/
theorem get?_insert_congr (alike : files.get? = others.get?) :
    (files.insert path entry).get? = (others.insert path entry).get? := by
  funext asked
  by_cases same : path.SamePlace asked
  · rw [get?_insert_of_same same, get?_insert_of_same same]
  · rw [get?_insert_of_elsewhere same, get?_insert_of_elsewhere same, alike]

/-- Insertions at different places can be made in either order. -/
theorem get?_insert_comm {other : Path} (elsewhere : ¬path.SamePlace other) (entry' : Entry) :
    ((files.insert path entry).insert other entry').get? =
      ((files.insert other entry').insert path entry).get? := by
  funext asked
  by_cases here : path.SamePlace asked
  · have there : ¬other.SamePlace asked := fun there =>
      elsewhere fun directory proper => (here directory proper).trans (there directory proper).symm
    rw [get?_insert_of_elsewhere there, get?_insert_of_same here, get?_insert_of_same here]
  · have later : ((files.insert other entry').insert path entry).get? asked =
        (files.insert other entry').get? asked := get?_insert_of_elsewhere here
    rw [later]
    by_cases there : other.SamePlace asked
    · rw [get?_insert_of_same there, get?_insert_of_same there]
    · rw [get?_insert_of_elsewhere there, get?_insert_of_elsewhere there,
        get?_insert_of_elsewhere here]

/-! A whole history. -/

theorem get?_insertAll_congr (alike : files.get? = others.get?) (history : List (Path × Entry)) :
    (files.insertAll history).get? = (others.insertAll history).get? := by
  induction history generalizing files others with
  | nil => exact alike
  | cons item rest ih => exact ih (get?_insert_congr alike)

theorem get?_insertAll_of_elsewhere {history : List (Path × Entry)}
    (elsewhere : ∀ item ∈ history, ¬item.1.SamePlace asked) :
    (files.insertAll history).get? asked = files.get? asked := by
  induction history generalizing files with
  | nil => rfl
  | cons item rest ih =>
    rw [List.forall_mem_cons] at elsewhere
    exact (ih elsewhere.2).trans (get?_insert_of_elsewhere elsewhere.1)

theorem get?_insertAll_of_last {before after : List (Path × Entry)} (same : path.SamePlace asked)
    (elsewhere : ∀ item ∈ after, ¬item.1.SamePlace asked) :
    (files.insertAll (before ++ (path, entry) :: after)).get? asked = some entry := by
  rw [insertAll_append]
  exact (get?_insertAll_of_elsewhere elsewhere).trans (get?_insert_of_same same)

theorem get?_insertAll_comm {first second : Path × Entry} (elsewhere : ¬first.1.SamePlace second.1)
    (before after : List (Path × Entry)) :
    (files.insertAll (before ++ first :: second :: after)).get? =
      (files.insertAll (before ++ second :: first :: after)).get? := by
  rw [insertAll_append, insertAll_append]
  exact get?_insertAll_congr (get?_insert_comm elsewhere second.2) after

theorem opener_congr (alike : files.get? asked = others.get? asked) :
    files.opener asked = others.opener asked := by
  rw [opener, opener, alike]

/-- After a history of insertions, opening a path yields what was inserted last at the place to
which the path leads, and fails if nothing was inserted there. An insertion changes nothing under
paths with another normal form, and two insertions in a row at different places may change places,
whatever follows them. -/
theorem opener_insertAll (history : List (Path × Entry)) (asked : Path) :
    (∀ before path entry after, history = before ++ (path, entry) :: after →
      path.SamePlace asked → (∀ item ∈ after, ¬item.1.SamePlace asked) →
        ((∅ : FileSet).insertAll history).opener asked = entry.content) ∧
    ((∀ item ∈ history, ¬item.1.SamePlace asked) →
      ((∅ : FileSet).insertAll history).opener asked = .error .notFound) ∧
    (∀ path entry, path.normalize ≠ asked.normalize →
      ((∅ : FileSet).insertAll (history ++ [(path, entry)])).opener asked =
        ((∅ : FileSet).insertAll history).opener asked) ∧
    ∀ first second later, ¬first.1.SamePlace second.1 →
      ((∅ : FileSet).insertAll (history ++ first :: second :: later)).opener asked =
        ((∅ : FileSet).insertAll (history ++ second :: first :: later)).opener asked := by
  refine ⟨?_, ?_, ?_, ?_⟩
  · rintro before path entry after rfl same elsewhere
    rw [opener, get?_insertAll_of_last same elsewhere]
  · intro elsewhere
    rw [opener, get?_insertAll_of_elsewhere elsewhere]
    rfl
  · intro path entry apart
    apply opener_congr
    rw [insertAll_append]
    exact get?_insert_of_elsewhere (mt Path.normalize_eq_iff.mpr apart)
  · intro first second later elsewhere
    exact opener_congr (congrFun (get?_insertAll_comm elsewhere history later) asked)

/-- The second of three insertions is the last one at the place of the path that is opened. -/
theorem respelled_opened :
    (Path.mk "b/../a").SamePlace ⟨"./c/../a"⟩ ∧ ¬(Path.mk "../a").SamePlace ⟨"./c/../a"⟩ ∧
      ((∅ : FileSet).insertAll [(⟨"a"⟩, .readable (.ofText "x")),
        (⟨"b/../a"⟩, .readable (.ofText "y")),
        (⟨"../a"⟩, .readable (.ofText "z"))]).opener ⟨"./c/../a"⟩ = .ok (.ofText "y") := by
  have same : (Path.mk "b/../a").SamePlace ⟨"./c/../a"⟩ := Path.normalize_eq_iff.mp (by decide)
  have apart : ¬(Path.mk "../a").SamePlace ⟨"./c/../a"⟩ :=
    mt Path.normalize_eq_iff.mpr (by decide)
  refine ⟨same, apart, ?_⟩
  exact (opener_insertAll _ _).1 [_] _ (.readable (.ofText "y")) [_] rfl same
    (List.forall_mem_singleton.mpr apart)

end FileSet

end Transclude
