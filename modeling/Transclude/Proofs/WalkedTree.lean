import Mathlib.Data.List.Induction
import Mathlib.Tactic.SplitIfs
import Transclude.Glob.Expand
import Transclude.Proofs.FileReplacement
import Transclude.Proofs.PathPlaces

/-!
Trees without links, as they are walked from a directory. The names between the slashes of a path
are the steps to its place, what stands somewhere can be reached through the directories above it,
and the files below a directory are seen from there under what is left of their names.
-/

namespace Transclude

/-- A place as a path from the directory above it. -/
def Place.path (place : Place) : Path := ⟨"/".intercalate place⟩

namespace Place

variable {place : Place}

theorem pieces_path (away : place ≠ []) (whole : ∀ name ∈ place, '/' ∉ name.toList) :
    Path.pieces '/' place.path.text.toList = place.map String.toList := by
  induction place with
  | nil => exact absurd rfl away
  | cons name rest ih =>
    rw [List.forall_mem_cons] at whole
    cases rest with
    | nil =>
      rw [path, String.intercalate_singleton, Path.pieces_of_not_mem whole.1]
      rfl
    | cons next more =>
      rw [path, Path.toList_intercalate_cons_cons, Path.pieces_append,
        Path.pieces_of_not_mem whole.1]
      exact congrArg _ (ih (List.cons_ne_nil _ _) whole.2)

theorem slash_notMem (proper : ∀ name ∈ place, isName name = true) :
    ∀ name ∈ place, '/' ∉ name.toList := fun name member =>
  (isName_iff.mp (proper name member)).2.2.2

/-- What stands between the slashes of a path to a place are the names of the place. -/
theorem way_path (away : place ≠ []) (proper : ∀ name ∈ place, isName name = true) :
    Tree.way place.path = place := by
  have same : String.ofList ∘ String.toList = id := funext fun _ => String.ofList_toList
  rw [Tree.way, pieces_path away (slash_notMem proper), List.map_map, same, List.map_id]

theorem isAbsolute_path (proper : ∀ name ∈ place, isName name = true) :
    place.path.isAbsolute = false := by
  cases place with
  | nil => rfl
  | cons name rest =>
    have named := isName_iff.mp (proper name List.mem_cons_self)
    exact Path.isAbsolute_intercalate named.1
      (fun first => named.2.2.2 (List.mem_of_mem_head? first)) rest

theorem map_text_names (place : Place) : (place.map Step.name).map Step.text = place := by
  rw [List.map_map]
  exact List.map_id place

theorem innerSteps_path (proper : ∀ name ∈ place, isName name = true) :
    Path.innerSteps place.path.text.toList = place.map .name := by
  have known := Path.innerSteps_intercalate (Path.isInner_of_mem_names proper)
  rwa [map_text_names] at known

/-- Paths of names determine the names. -/
theorem path_injective {other : Place} (proper : ∀ name ∈ place, isName name = true)
    (proper' : ∀ name ∈ other, isName name = true) (same : place.path = other.path) :
    place = other := by
  have steps : place.map Step.name = other.map Step.name := by
    rw [← innerSteps_path proper, ← innerSteps_path proper', same]
  exact List.map_injective_iff.mpr (fun _ _ => Step.name.inj) steps

theorem text_path_ne_empty (proper : ∀ name ∈ place, isName name = true) (away : place ≠ []) :
    place.path.text ≠ "" := fun blank =>
  away (path_injective proper (List.forall_mem_nil _) (congrArg Path.mk blank))

theorem steps_path (proper : ∀ name ∈ place, isName name = true) :
    place.path.steps = place.map .name := by
  have inner := innerSteps_path proper
  by_cases root : place = []
  · rw [root]
    rfl
  · have cut := pieces_path root (slash_notMem proper)
    have relative := isAbsolute_path proper
    rw [Path.steps]
    split
    · next rest absolute =>
      rw [Path.isAbsolute, absolute] at relative
      cases relative
    · split
      · next others current =>
        rw [cut] at current
        obtain ⟨name, rest, rfl⟩ := List.exists_cons_of_ne_nil root
        have named := isName_iff.mp (proper name List.mem_cons_self)
        exact absurd (String.toList_inj.mp (List.cons.inj current).1) named.2.1
      · exact inner

theorem mem_path {c : Char} (member : c ∈ place.path.text.toList) :
    c = '/' ∨ ∃ name ∈ place, c ∈ name.toList := by
  induction place with
  | nil => cases member
  | cons name rest ih =>
    cases rest with
    | nil =>
      rw [path, String.intercalate_singleton] at member
      exact .inr ⟨name, List.mem_singleton_self _, member⟩
    | cons next more =>
      rw [path, Path.toList_intercalate_cons_cons, List.mem_append, List.mem_cons] at member
      rcases member with first | slash | later
      · exact .inr ⟨name, List.mem_cons_self, first⟩
      · exact .inl slash
      · exact (ih later).imp_right fun ⟨other, among, inside⟩ =>
          ⟨other, List.mem_cons_of_mem _ among, inside⟩

theorem toList_path_append {front back : Place} (away : front ≠ []) (away' : back ≠ []) :
    (path (front ++ back)).text.toList =
      front.path.text.toList ++ '/' :: back.path.text.toList := by
  induction front with
  | nil => exact absurd rfl away
  | cons name rest ih =>
    cases rest with
    | nil =>
      obtain ⟨next, more, rfl⟩ := List.exists_cons_of_ne_nil away'
      rw [List.singleton_append, path, Path.toList_intercalate_cons_cons, path,
        String.intercalate_singleton]
      rfl
    | cons next more =>
      have later := ih (List.cons_ne_nil _ _)
      rw [path, List.cons_append, List.cons_append, Path.toList_intercalate_cons_cons, path,
        Path.toList_intercalate_cons_cons, List.append_assoc]
      exact congrArg (fun text => name.toList ++ '/' :: text) later

end Place

namespace Tree

variable {tree : Tree}

/-- A tree without links, in which everything stands in a directory under names that a file system
can hold. -/
structure IsPlain (tree : Tree) : Prop where
  /-- Everything stands in a directory. -/
  inside : ∀ entry ∈ tree.nodes, tree.get? entry.1.dropLast = some .directory
  noLink : ∀ entry ∈ tree.nodes, ∀ target, entry.2 ≠ .link target
  names : ∀ entry ∈ tree.nodes, ∀ name ∈ entry.1,
    name.utf8ByteSize ≤ maxNameSize ∧ '\x00' ∉ name.toList

namespace IsPlain

variable (plain : tree.IsPlain)

include plain

theorem get?_ne_link (place : Place) (target : Path) : tree.get? place ≠ some (.link target) := by
  intro stands
  by_cases root : place = []
  · rw [root] at stands
    cases stands
  · exact plain.noLink _ (mem_of_get? root stands) target rfl

/-- Walking along a way does not meet a link. -/
theorem advance_eq_ok {place : Place} {names : List String} {reach : Reach}
    (reached : tree.advance place names = .ok reach) :
    reach = .place (names.foldl Place.move place) := by
  cases reach with
  | place found => rw [advance_eq_move reached]
  | link directory target rest =>
    fun_induction advance tree place names with
    | case1 | case2 | case5 | case6 => cases reached
    | case3 place name rest _ stays ih => cases ih reached
    | case4 place rest _ _ ih => cases ih reached
    | case7 => exact absurd ‹_› (plain.get?_ne_link _ _)
    | case8 place name rest _ moves down _ _ _ _ ih => cases ih reached

/-- A path that leads somewhere leads where its names say. -/
theorem locate_eq_ok {directory place : Place} {path : Path}
    (located : tree.locate directory path = .ok place) : place = path.placeFrom directory := by
  unfold locate at located
  split_ifs at located
  unfold follow at located
  cases reached : tree.advance (start directory path) (way path) with
  | error fault =>
    rw [reached] at located
    cases located
  | ok reach =>
    rw [reached, plain.advance_eq_ok reached] at located
    cases located
    rfl

/-- What stands somewhere can be reached through the directories above it. -/
theorem directory_above {place : Place} {name : String} {rest : List String} {node : Node}
    (stands : tree.get? (place ++ name :: rest) = some node) :
    tree.get? place = some .directory := by
  induction rest using List.reverseRecOn generalizing node with
  | nil =>
    have above := plain.inside _ (mem_of_get? (by simp) stands)
    rwa [List.dropLast_concat] at above
  | append_singleton rest last ih =>
    have above := plain.inside _ (mem_of_get? (by simp) stands)
    dsimp only at above
    rw [← List.cons_append, ← List.append_assoc, List.dropLast_concat] at above
    exact ih above

/-- Names lead to what stands under them. -/
theorem advance_to {place : Place} {names : List String} {node : Node}
    (stands : tree.get? (place ++ names) = some node)
    (proper : ∀ name ∈ names, Place.isName name = true) :
    tree.advance place names = .ok (.place (place ++ names)) := by
  induction names generalizing place with
  | nil => rw [advance, List.append_nil]
  | cons name rest ih =>
    rw [List.forall_mem_cons] at proper
    have named := Place.isName_iff.mp proper.1
    have here := plain.directory_above stands
    have later : tree.get? (place ++ [name] ++ rest) = some node := by
      rwa [List.append_assoc, List.singleton_append]
    have size := (plain.names _ (mem_of_get? (by simp) stands) name (by simp)).1
    obtain ⟨next, under⟩ : ∃ next, tree.get? (place ++ [name]) = some next := by
      cases rest with
      | nil => exact ⟨node, stands⟩
      | cons other more => exact ⟨_, plain.directory_above later⟩
    have whole : place ++ name :: rest = place ++ [name] ++ rest := by simp
    rw [advance, if_neg (by simp [here]), if_neg (by simp [named]), if_neg named.2.2.1,
      if_neg (Nat.not_lt.mpr size), under, whole]
    cases next with
    | link target => exact absurd under (plain.get?_ne_link _ target)
    | directory | file _ _ => exact ih later proper.2

/-- The path of a place leads to it, if the path is not too long for the system. -/
theorem locate_path {directory place : Place} {node : Node} (away : place ≠ [])
    (stands : tree.get? (directory ++ place) = some node)
    (proper : ∀ name ∈ place, Place.isName name = true)
    (short : place.path.text.utf8ByteSize < pathSizeLimit) :
    tree.locate directory place.path = .ok (directory ++ place) := by
  have clean : place.path.text.toList.contains '\x00' = false := by
    rw [List.contains_eq_mem, decide_eq_false_iff_not]
    intro member
    rcases Place.mem_path member with slash | ⟨name, among, inside⟩
    · cases slash
    · exact (plain.names _ (mem_of_get? (by simp [away]) stands) name (by simp [among])).2 inside
  have nonempty : place.path.text.isEmpty = false :=
    Bool.eq_false_iff.mpr fun blank =>
      Place.text_path_ne_empty proper away (String.isEmpty_iff.mp blank)
  have begins : start directory place.path = directory := by
    rw [start, Place.isAbsolute_path proper, if_neg Bool.false_ne_true]
  rw [locate, clean, nonempty, if_neg Bool.false_ne_true, if_neg Bool.false_ne_true,
    if_neg (Nat.not_le.mpr short), begins, Place.way_path away proper, follow,
    plain.advance_to stands proper]

end IsPlain

/-! The files below a directory. -/

theorem seen_eq_some {directory place seen : Place} {node : Node} :
    (match node with
      | .file _ _ =>
        if directory.isPrefixOf place then some (place.drop directory.length) else none
      | _ => none) = some seen ↔
      (∃ content mode, node = .file content mode) ∧ place = directory ++ seen := by
  cases node with
  | directory | link target => simp
  | file content mode =>
    dsimp only
    constructor
    · intro found
      split_ifs at found with inside
      obtain ⟨rest, rfl⟩ := List.isPrefixOf_iff_prefix.mp inside
      rw [List.drop_left] at found
      cases found
      exact ⟨⟨content, mode, rfl⟩, rfl⟩
    · rintro ⟨-, rfl⟩
      rw [if_pos (List.isPrefixOf_iff_prefix.mpr (List.prefix_append _ _)), List.drop_left]

theorem mem_filesBelow {directory seen : Place} :
    seen ∈ tree.filesBelow directory ↔
      ∃ content mode, (directory ++ seen, .file content mode) ∈ tree.nodes := by
  rw [filesBelow, List.mem_filterMap]
  constructor
  · rintro ⟨⟨place, node⟩, member, found⟩
    obtain ⟨⟨content, mode, rfl⟩, rfl⟩ := seen_eq_some.mp found
    exact ⟨content, mode, member⟩
  · rintro ⟨content, mode, member⟩
    exact ⟨_, member, seen_eq_some.mpr ⟨⟨content, mode, rfl⟩, rfl⟩⟩

/-- No file is seen twice. -/
theorem nodup_filesBelow (tree : Tree) (directory : Place) : (tree.filesBelow directory).Nodup := by
  have apart : tree.nodes.Pairwise fun entry other => entry.1 ≠ other.1 :=
    List.pairwise_map.mp tree.unique
  rw [filesBelow, List.Nodup, List.pairwise_filterMap]
  refine apart.imp ?_
  rintro ⟨place, node⟩ ⟨place', node'⟩ other seen found seen' found' rfl
  exact other ((seen_eq_some.mp found).2.trans (seen_eq_some.mp found').2.symm)

end Tree

end Transclude
