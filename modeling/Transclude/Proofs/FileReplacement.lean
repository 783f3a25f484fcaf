import Mathlib.Data.List.Nodup
import Mathlib.Data.List.Perm.Subperm
import Transclude.Tree

/-!
Replacing a file in a tree. There is always a place beside it for a new file, and moving that file
over the old one leaves the tree as if the content had been written in place: nothing was added or
removed, and the mode is the same.
-/

namespace Transclude

namespace Tree

variable {tree : Tree} {place : Place} {content : List UInt8}

theorem get?_of_ne (away : place ≠ []) :
    tree.get? place = (tree.nodes.find? fun entry => entry.1 == place).map Prod.snd := if_neg away

theorem ne_root_of_isProper (proper : place.isProper = true) : place ≠ [] := by
  intro root
  rw [root] at proper
  cases proper

theorem get?_of_mem {entry : Place × Node} (member : entry ∈ tree.nodes) :
    tree.get? entry.1 = some entry.2 := by
  obtain ⟨before, after, split⟩ := List.append_of_mem member
  have unique := tree.unique
  rw [split, List.map_append, List.nodup_append'] at unique
  have first : before.find? (fun kept => kept.1 == entry.1) = none := by
    rw [List.find?_eq_none]
    intro kept here same
    apply unique.2.2 (List.mem_map_of_mem here)
    rw [beq_iff_eq.mp same]
    exact List.mem_map_of_mem (List.mem_cons_self ..)
  rw [get?_of_ne (ne_root_of_isProper (tree.proper entry member)), split, List.find?_append, first]
  simp

theorem mem_of_get? (away : place ≠ []) {node : Node} (stands : tree.get? place = some node) :
    (place, node) ∈ tree.nodes := by
  rw [get?_of_ne away, Option.map_eq_some_iff] at stands
  obtain ⟨entry, found, rfl⟩ := stands
  have here := List.find?_some found
  rw [← beq_iff_eq.mp here]
  exact List.mem_of_find?_eq_some found

theorem ne_of_get?_eq_none (free : tree.get? place = none) {entry : Place × Node}
    (member : entry ∈ tree.nodes) : entry.1 ≠ place := by
  intro same
  rw [← same, get?_of_mem member] at free
  cases free

/-! A place at which nothing stands. -/

theorem temporaryName_injective : Function.Injective temporaryName := by
  intro number other same
  have sizes := congrArg String.length same
  simp only [temporaryName, String.length_append, String.length_ofList,
    List.length_replicate] at sizes
  omega

theorem isName_temporaryName (number : Nat) : Place.isName (temporaryName number) = true := by
  have characters : (temporaryName number).toList = '.' :: 't' :: 'm' :: 'p' ::
      List.replicate number 'x' := by
    simp [temporaryName, String.toList_append]
  have other : ∀ text : String, text.length < 4 → temporaryName number ≠ text := by
    intro text short same
    have sizes := congrArg String.length same
    rw [← String.length_toList, characters] at sizes
    simp only [List.length_cons] at sizes
    omega
  have slash : '/' ∉ (temporaryName number).toList := by
    rw [characters]
    simp
  simp [Place.isName, other "" (by decide), other "." (by decide), other ".." (by decide), slash]

/-- The names of the temporary files in a directory are too many to be all taken. -/
theorem get?_spare (tree : Tree) (directory : Place) :
    tree.get? (tree.spare directory) = none := by
  unfold spare
  cases found : (List.range tree.nodes.length).find? fun number =>
      (tree.get? (directory ++ [temporaryName number])).isNone with
  | some number =>
    have free := List.find?_some found
    exact Option.isNone_iff_eq_none.mp free
  | none =>
    rw [List.find?_eq_none] at found
    -- were the last name taken as well, more places would be taken than there are nodes
    by_contra taken
    have all : (List.range (tree.nodes.length + 1)).map
        (fun number => directory ++ [temporaryName number]) ⊆ tree.nodes.map Prod.fst := by
      intro place member
      obtain ⟨number, inside, rfl⟩ := List.mem_map.mp member
      have stands : tree.get? (directory ++ [temporaryName number]) ≠ none := by
        rw [List.range_succ, List.mem_append, List.mem_singleton] at inside
        cases inside with
        | inl early => simpa using found number early
        | inr last => rwa [last]
      obtain ⟨node, here⟩ := Option.ne_none_iff_exists'.mp stands
      exact List.mem_map_of_mem (f := Prod.fst)
        (mem_of_get? (List.append_ne_nil_of_right_ne_nil _ (List.cons_ne_nil _ _)) here)
    have distinct : ((List.range (tree.nodes.length + 1)).map
        fun number => directory ++ [temporaryName number]).Nodup := by
      apply List.nodup_range.map
      intro number other same
      exact temporaryName_injective (List.singleton_injective (List.append_cancel_left same))
    have enough := (distinct.subperm all).length_le
    rw [List.length_map, List.length_map, List.length_range] at enough
    omega

theorem isProper_spare (tree : Tree) {place : Place} (proper : place.isProper = true) :
    (tree.spare place.dropLast).isProper = true := by
  unfold spare Place.isProper
  rw [Place.isProper, Bool.and_eq_true] at proper
  have names := List.all_eq_true.mp proper.2
  rw [Bool.and_eq_true, List.all_append, Bool.and_eq_true]
  refine ⟨by simp, ?_, ?_⟩
  · exact List.all_eq_true.mpr fun name member => names name (List.dropLast_subset _ member)
  · simp [isName_temporaryName]

/-! The steps of a replacement. -/

theorem nodes_erase (tree : Tree) (place : Place) :
    (tree.erase place).nodes = tree.nodes.filter fun entry => entry.1 != place := rfl

theorem nodes_modify (tree : Tree) (place : Place) (change : Node → Node) :
    (tree.modify place change).nodes = tree.nodes.map fun entry =>
      (entry.1, if entry.1 = place then change entry.2 else entry.2) := rfl

/-- Only what a change does to the node at its place counts. -/
theorem modify_congr {change other : Node → Node}
    (same : ∀ node, tree.get? place = some node → change node = other node) :
    tree.modify place change = tree.modify place other := by
  apply Tree.ext
  rw [nodes_modify, nodes_modify]
  apply List.map_congr_left
  intro entry member
  by_cases here : entry.1 = place
  · rw [if_pos here, if_pos here, same entry.2 (here ▸ get?_of_mem member)]
  · rw [if_neg here, if_neg here]

theorem modify_id (tree : Tree) (place : Place) : tree.modify place id = tree := by
  apply Tree.ext
  simp [nodes_modify]

theorem absent_of_nodes {node : Node} {rest : List (Place × Node)}
    (nodes : tree.nodes = (place, node) :: rest) : ∀ entry ∈ rest, entry.1 ≠ place := by
  intro entry member same
  have unique := tree.unique
  rw [nodes, List.map_cons, List.nodup_cons] at unique
  apply unique.1
  show place ∈ _
  rw [← same]
  exact List.mem_map_of_mem member

theorem nodes_insert_of_free (proper : place.isProper = true) (free : tree.get? place = none)
    (node : Node) : (tree.insert place node).nodes = (place, node) :: tree.nodes := by
  rw [insert, dif_pos proper]
  show (place, node) :: (tree.erase place).nodes = _
  rw [nodes_erase, List.filter_eq_self.mpr]
  intro entry member
  exact bne_iff_ne.mpr (ne_of_get?_eq_none free member)

theorem nodes_modify_cons {node : Node} {rest : List (Place × Node)}
    (nodes : tree.nodes = (place, node) :: rest) (change : Node → Node) :
    (tree.modify place change).nodes = (place, change node) :: rest := by
  have others : rest.map (fun entry =>
      (entry.1, if entry.1 = place then change entry.2 else entry.2)) = rest.map id := by
    apply List.map_congr_left
    intro entry member
    rw [if_neg (absent_of_nodes nodes entry member), id]
  rw [nodes_modify, nodes, List.map_cons, others, List.map_id, if_pos rfl]

/-- Moving the first of the nodes over another. -/
theorem nodes_moveOver_cons {node : Node} {rest : List (Place × Node)}
    (nodes : tree.nodes = (place, node) :: rest) (target : Place) :
    (tree.moveOver place target).nodes =
      rest.map fun entry => (entry.1, if entry.1 = target then node else entry.2) := by
  have stands : tree.get? place = some node := by
    have member : (place, node) ∈ tree.nodes := nodes ▸ List.mem_cons_self ..
    exact get?_of_mem member
  have erased : (tree.erase place).nodes = rest := by
    rw [nodes_erase, nodes, List.filter_cons_of_neg (by simp), List.filter_eq_self]
    intro entry member
    exact bne_iff_ne.mpr (absent_of_nodes nodes entry member)
  rw [moveOver, stands]
  show ((tree.erase place).modify target fun _ => node).nodes = _
  rw [nodes_modify, erased]

/-- By way of a new file or in place, a file gets the same content and keeps its mode. -/
theorem replace_eq_write (tree : Tree) (place : Place) (content : List UInt8) :
    tree.replace place content = tree.write place content := by
  unfold replace write
  split
  next old mode stands =>
    have away : place ≠ [] := by
      intro root
      rw [root, get?, if_pos rfl] at stands
      cases stands
    have proper := tree.proper _ (mem_of_get? away stands)
    -- up to the last step, the new file stands in front of all nodes and the others are as before
    have fresh := nodes_insert_of_free (tree.isProper_spare proper)
      (tree.get?_spare place.dropLast) (.file [] privateMode)
    have written := nodes_modify_cons fresh (Node.withContent content)
    have moded := nodes_modify_cons written (Node.withMode mode)
    calc
      _ = tree.modify place fun _ => .file content mode :=
        Tree.ext (nodes_moveOver_cons moded place)
      _ = tree.modify place (Node.withContent content) := by
        apply modify_congr
        intro node here
        rw [stands] at here
        cases here
        rfl
  next other =>
    symm
    calc
      tree.modify place (Node.withContent content) = tree.modify place id := by
        apply modify_congr
        intro node here
        cases node with
        | directory | link _ => rfl
        | file old mode => exact absurd here (other old mode)
      _ = tree := tree.modify_id place

end Tree

end Transclude
