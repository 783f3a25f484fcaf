import Transclude.Command.Outcome
import Transclude.Proofs.FileReplacement

/-!
What does not depend on the contents of files: where paths lead, which files there are and which of
them a command has for its targets. Replacing files changes contents only, so all of this stays, and
the places to which no document leads hold what they held.
-/

namespace Transclude

namespace Tree

variable {tree : Tree}

/-- A tree without the contents of its files. -/
def outline (tree : Tree) : List (Place × Node) :=
  tree.nodes.map fun entry => (entry.1, entry.2.withContent [])

theorem get?_write (tree : Tree) (place : Place) (content : List UInt8) (other : Place) :
    (tree.write place content).get? other =
      (tree.get? other).map fun node =>
        if other = place then node.withContent content else node := by
  by_cases root : other = []
  · rw [root, get?, get?, if_pos rfl, if_pos rfl, Option.map_some]
    split <;> rfl
  · rw [get?_of_ne root, get?_of_ne root, write, nodes_modify, List.find?_map, Option.map_map,
      Option.map_map]
    refine Option.map_congr fun entry found => ?_
    have here := List.find?_some found
    rw [Function.comp_apply, beq_iff_eq] at here
    rw [Function.comp_apply, Function.comp_apply, here]

theorem outline_write (tree : Tree) (place : Place) (content : List UInt8) :
    (tree.write place content).outline = tree.outline := by
  rw [outline, write, nodes_modify, List.map_map, outline]
  apply List.map_congr_left
  intro entry _
  rw [Function.comp_apply]
  by_cases here : entry.1 = place
  · rw [if_pos here]
    cases entry.2 with
    | directory | link _ | file _ _ => rfl
  · rw [if_neg here]

variable {other : Tree}

/-- Trees of one outline hold the same at a place, or files of the same mode. -/
theorem get?_of_outline (alike : tree.outline = other.outline) (place : Place) :
    tree.get? place = other.get? place ∨ ∃ content content' mode,
      tree.get? place = some (.file content mode) ∧
        other.get? place = some (.file content' mode) := by
  by_cases root : place = []
  · left
    rw [root, get?, get?, if_pos rfl, if_pos rfl]
  · have found := congrArg (List.find? fun entry => entry.1 == place) alike
    rw [outline, outline, List.find?_map, List.find?_map] at found
    have same := congrArg (Option.map Prod.snd) found
    rw [Option.map_map, Option.map_map] at same
    have bare : (tree.get? place).map (Node.withContent []) =
        (other.get? place).map (Node.withContent []) := by
      rw [get?_of_ne root, get?_of_ne root, Option.map_map, Option.map_map]
      exact same
    revert bare
    rcases tree.get? place with _ | _ | ⟨content, mode⟩ | target <;>
      rcases other.get? place with _ | _ | ⟨content', mode'⟩ | target' <;>
        simp [Node.withContent]
    intro same
    exact .inr same

theorem advance_of_outline (alike : tree.outline = other.outline) (place : Place)
    (names : List String) : tree.advance place names = other.advance place names := by
  induction names generalizing place with
  | nil => rfl
  | cons name rest ih =>
    have directory : tree.get? place = some .directory ↔ other.get? place = some .directory := by
      rcases get?_of_outline alike place with same | ⟨_, _, _, here, there⟩
      · rw [same]
      · simp [here, there]
    -- where the way goes on depends on what kind of node stands at the next place only
    unfold advance
    simp only [ne_eq, directory, ih]
    rcases get?_of_outline alike (place ++ [name]) with same | ⟨_, _, _, here, there⟩
    · rw [same]
    · rw [here, there]

theorem follow_of_outline (alike : tree.outline = other.outline) (links : Nat) (place : Place)
    (names : List String) : tree.follow links place names = other.follow links place names := by
  induction links generalizing place names with
  | zero =>
    unfold follow
    rw [advance_of_outline alike]
  | succ links ih =>
    unfold follow
    rw [advance_of_outline alike]
    simp only [ih]

/-- Paths lead to the same places in trees of one outline. -/
theorem locate_of_outline (alike : tree.outline = other.outline) (directory : Place)
    (path : Path) : tree.locate directory path = other.locate directory path := by
  unfold locate
  rw [follow_of_outline alike]

theorem filesBelow_eq_filterMap_outline (tree : Tree) (directory : Place) :
    tree.filesBelow directory = tree.outline.filterMap fun entry =>
      match entry.2 with
      | .file _ _ =>
        if directory.isPrefixOf entry.1 then some (entry.1.drop directory.length) else none
      | _ => none := by
  rw [outline, List.filterMap_map, filesBelow]
  apply List.filterMap_congr
  intro entry _
  obtain ⟨place, node⟩ := entry
  cases node with
  | directory | link _ | file _ _ => rfl

theorem filesBelow_of_outline (alike : tree.outline = other.outline) (directory : Place) :
    tree.filesBelow directory = other.filesBelow directory := by
  rw [filesBelow_eq_filterMap_outline, filesBelow_eq_filterMap_outline, alike]

end Tree

namespace Workspace

variable {workspace other : Workspace} {path : Path} {place : Place} {text : String}

/-- Workspaces that differ at most in the contents of their files. -/
structure Alike (workspace other : Workspace) : Prop where
  directory : workspace.directory = other.directory
  outline : workspace.tree.outline = other.tree.outline

theorem Alike.refl (workspace : Workspace) : workspace.Alike workspace := ⟨rfl, rfl⟩

theorem Alike.trans {last : Workspace} (alike : workspace.Alike other)
    (next : other.Alike last) : workspace.Alike last :=
  ⟨alike.directory.trans next.directory, alike.outline.trans next.outline⟩

theorem Alike.locate_eq (alike : workspace.Alike other) (path : Path) :
    workspace.locate path = other.locate path := by
  unfold Workspace.locate
  rw [alike.directory, Tree.locate_of_outline alike.outline]

theorem Alike.isFile_eq (alike : workspace.Alike other) (path : Path) :
    workspace.isFile path = other.isFile path := by
  unfold isFile
  rw [alike.locate_eq]
  cases other.locate path with
  | error error => rfl
  | ok place =>
    rcases Tree.get?_of_outline alike.outline place with same | ⟨_, _, _, here, there⟩
    · simp only [same]
    · simp only [here, there]

theorem Alike.path_eq (alike : workspace.Alike other) : workspace.path = other.path := by
  unfold path
  rw [alike.directory]

theorem Alike.candidates_eq (alike : workspace.Alike other) (directory : Path) :
    Glob.candidates workspace directory = Glob.candidates other directory := by
  unfold Glob.candidates
  rw [alike.locate_eq]
  simp only [Tree.filesBelow_of_outline alike.outline]

theorem Alike.expand_eq (alike : workspace.Alike other) (pattern : Path) :
    Glob.expand workspace pattern = Glob.expand other pattern := by
  unfold Glob.expand
  simp only [alike.isFile_eq, alike.candidates_eq]

theorem Alike.targets_eq (alike : workspace.Alike other) (options : Command.Options) :
    Command.targets workspace options = Command.targets other options := by
  unfold Command.targets
  cases options.glob with
  | none => rfl
  | some pattern => simp only [alike.expand_eq]

theorem Alike.find?_eq (alike : workspace.Alike other) (directory : Path) :
    Settings.find? workspace directory = Settings.find? other directory := by
  unfold Settings.find?
  congr 1
  funext path
  exact alike.isFile_eq path

/-- A path is opened alike where the same stands at the place to which it leads. -/
theorem opener_of_located (located : workspace.locate path = .ok place) :
    workspace.opener path =
      match workspace.tree.get? place with
      | some (.file content _) => .ok { bytes := content }
      | _ => .ok { bytes := [], failure := some .isDirectory } := by
  unfold opener
  rw [located]
  rfl

theorem Alike.opener_eq (alike : workspace.Alike other) {path : Path}
    (same : ∀ place, other.locate path = .ok place →
      workspace.tree.get? place = other.tree.get? place) :
    workspace.opener path = other.opener path := by
  cases located : other.locate path with
  | error error =>
    unfold opener
    rw [alike.locate_eq, located]
    rfl
  | ok place =>
    rw [opener_of_located located, opener_of_located ((alike.locate_eq path).trans located),
      same place located]

theorem write_of_locate (located : workspace.locate path = .ok place) (text : String) :
    workspace.write path text =
      { workspace with tree := workspace.tree.write place text.toUTF8.data.toList } := by
  unfold write
  rw [located]
  show Workspace.mk _ _ = _
  rw [Tree.replace_eq_write]

/-- Where a path leads nowhere, nothing is written. -/
theorem write_of_lost {error : IoError} (lost : workspace.locate path = .error error)
    (text : String) : workspace.write path text = workspace := by
  unfold write
  rw [lost]

theorem alike_write (workspace : Workspace) (path : Path) (text : String) :
    (workspace.write path text).Alike workspace := by
  cases located : workspace.locate path with
  | error error =>
    rw [write_of_lost located]
    exact .refl workspace
  | ok place =>
    rw [write_of_locate located]
    exact ⟨rfl, workspace.tree.outline_write place _⟩

/-- Only the file to which the path leads is replaced. -/
theorem get?_write_of_ne (elsewhere : workspace.locate path ≠ .ok place) (text : String) :
    (workspace.write path text).tree.get? place = workspace.tree.get? place := by
  cases located : workspace.locate path with
  | error error => rw [write_of_lost located]
  | ok found =>
    have away : place ≠ found := fun same => elsewhere (same ▸ located)
    rw [write_of_locate located, Tree.get?_write]
    simp [away]

theorem get?_write_of_file {old : List UInt8} {mode : Nat}
    (located : workspace.locate path = .ok place)
    (stands : workspace.tree.get? place = some (.file old mode)) (text : String) :
    (workspace.write path text).tree.get? place =
      some (.file text.toUTF8.data.toList mode) := by
  rw [write_of_locate located, Tree.get?_write, stands, Option.map_some, if_pos rfl]
  rfl

end Workspace

namespace Command

variable {workspace : Workspace}

theorem writeAll_cons_of_stale {document : Document} (stale : document.isStale = true)
    (rest : List Document) : writeAll workspace (document :: rest) =
      writeAll (workspace.write document.path document.output) rest := by
  rw [writeAll, List.filter_cons_of_pos stale, List.foldl_cons]
  rfl

theorem writeAll_cons_of_fresh {document : Document} (fresh : document.isStale = false)
    (rest : List Document) : writeAll workspace (document :: rest) = writeAll workspace rest := by
  rw [writeAll, List.filter_cons_of_neg (by simp [fresh])]
  rfl

theorem writeAll_append (workspace : Workspace) (first second : List Document) :
    writeAll workspace (first ++ second) = writeAll (writeAll workspace first) second := by
  rw [writeAll, List.filter_append, List.foldl_append]
  rfl

/-- However many files are replaced, all but their contents stays. -/
theorem alike_writeAll (workspace : Workspace) (documents : List Document) :
    (writeAll workspace documents).Alike workspace := by
  induction documents generalizing workspace with
  | nil => exact .refl workspace
  | cons document rest ih =>
    cases stale : document.isStale with
    | false =>
      rw [writeAll_cons_of_fresh stale]
      exact ih workspace
    | true =>
      rw [writeAll_cons_of_stale stale]
      exact (ih _).trans (workspace.alike_write document.path document.output)

/-- A place to which no stale document leads stays as it is. -/
theorem get?_writeAll_of_ne {documents : List Document} {place : Place}
    (elsewhere : ∀ document ∈ documents, document.isStale = true →
      workspace.locate document.path ≠ .ok place) :
    (writeAll workspace documents).tree.get? place = workspace.tree.get? place := by
  induction documents generalizing workspace with
  | nil => rfl
  | cons document rest ih =>
    rw [List.forall_mem_cons] at elsewhere
    cases stale : document.isStale with
    | false =>
      rw [writeAll_cons_of_fresh stale]
      exact ih elsewhere.2
    | true =>
      have alike := workspace.alike_write document.path document.output
      rw [writeAll_cons_of_stale stale, ih, Workspace.get?_write_of_ne (elsewhere.1 stale)]
      intro other member outdated
      rw [alike.locate_eq]
      exact elsewhere.2 other member outdated

/-- A file to which stale documents lead gets the text of the last of them. -/
theorem get?_writeAll_of_last {before after : List Document} {document : Document}
    {place : Place} {old : List UInt8} {mode : Nat} (stale : document.isStale = true)
    (located : workspace.locate document.path = .ok place)
    (stands : workspace.tree.get? place = some (.file old mode))
    (last : ∀ other ∈ after, other.isStale = true → workspace.locate other.path ≠ .ok place) :
    (writeAll workspace (before ++ document :: after)).tree.get? place =
      some (.file document.output.toUTF8.data.toList mode) := by
  have alike := alike_writeAll workspace before
  -- earlier documents may have replaced the file already, but it still has its mode
  obtain ⟨content, stands⟩ : ∃ content,
      (writeAll workspace before).tree.get? place = some (.file content mode) := by
    rcases Tree.get?_of_outline alike.outline place with same | ⟨content, _, _, here, there⟩
    · exact ⟨old, same.trans stands⟩
    · rw [stands] at there
      cases there
      exact ⟨content, here⟩
  have located := (alike.locate_eq document.path).trans located
  have alike := ((writeAll workspace before).alike_write document.path document.output).trans alike
  rw [writeAll_append, writeAll_cons_of_stale stale, get?_writeAll_of_ne,
    Workspace.get?_write_of_file located stands]
  intro other member outdated
  rw [alike.locate_eq]
  exact last other member outdated

end Command

end Transclude
