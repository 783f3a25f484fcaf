import Mathlib.Data.List.Sort
import Mathlib.Data.List.TakeDrop
import Mathlib.Data.String.Basic
import Transclude.Proofs.GlobBase
import Transclude.Proofs.WalkedTree

/-!
The files that a pattern names. A pattern is split into a directory and a glob for what is below it,
and only the files below that directory are matched. What is found are all files that match the
pattern as a whole, in their order as paths.
-/

namespace Transclude

namespace Place

/-- Paths are ordered as the lists of their names. -/
theorem compareLex_eq_gt (place other : Place) :
    Path.le.compareLex (place.map .name) (other.map .name) = .gt ↔ other < place := by
  induction place generalizing other with
  | nil => cases other <;> simp [Path.le.compareLex]
  | cons name rest ih =>
    cases other with
    | nil => simp [Path.le.compareLex]
    | cons name' rest' =>
      rw [List.map_cons, List.map_cons, Path.le.compareLex, List.cons_lt_cons_iff,
        Ordering.then_eq_gt, ih]
      show compare name name' = .gt ∨ compare name name' = .eq ∧ rest' < rest ↔ _
      rw [compare_gt_iff_gt, compare_eq_iff_eq, eq_comm (a := name)]

theorem le_path {place other : Place} (proper : ∀ name ∈ place, isName name = true)
    (proper' : ∀ name ∈ other, isName name = true) :
    Path.le place.path other.path = decide (place ≤ other) := by
  rw [Path.le, steps_path proper, steps_path proper', Bool.eq_iff_iff, decide_eq_true_iff,
    ← not_lt, ← compareLex_eq_gt]
  cases Path.le.compareLex (place.map .name) (other.map .name) <;> simp [Ordering.isLE]

end Place

/-! Patterns. -/

namespace Path

theorem mem_of_mem_pieces {separator c : Char} {written piece : List Char}
    (member : piece ∈ pieces separator written) (inside : c ∈ piece) : c ∈ written := by
  induction written generalizing piece with
  | nil =>
    rw [pieces, List.mem_singleton] at member
    rw [member] at inside
    cases inside
  | cons d rest ih =>
    rw [pieces] at member
    split at member
    · rcases List.mem_cons.mp member with rfl | later
      · cases inside
      · exact List.mem_cons_of_mem _ (ih later inside)
    · split at member
      · rw [List.mem_singleton.mp member, List.mem_singleton] at inside
        exact List.mem_cons.mpr (.inl inside)
      · next first others split =>
        rw [split] at ih
        rcases List.mem_cons.mp member with rfl | later
        · rcases List.mem_cons.mp inside with rfl | further
          · exact List.mem_cons_self
          · exact List.mem_cons_of_mem _ (ih List.mem_cons_self further)
        · exact List.mem_cons_of_mem _ (ih (List.mem_cons_of_mem _ later) inside)

theorem mem_of_mem_innerSteps {written : List Char} {name : String}
    (member : Step.name name ∈ innerSteps written) {c : Char} (inside : c ∈ name.toList) :
    c ∈ written := by
  obtain ⟨piece, among, stands⟩ := List.mem_filterMap.mp member
  unfold innerStep? at stands
  split at stands
  · cases stands
  · cases stands
  · cases stands
  · cases stands
    rw [String.toList_ofList] at inside
    exact mem_of_mem_pieces among inside

/-- The steps of a relative path that does not go up, without those that stay, are names. -/
theorem exists_names {path : Path} (relative : path.isAbsolute = false)
    (down : .parent ∉ path.steps) :
    ∃ names : Place, path.steps.filter (· != .current) = names.map .name ∧
      (∀ name ∈ names, Place.isName name = true) ∧
      ∀ name ∈ names, ∀ c ∈ name.toList, c ∈ path.text.toList := by
  obtain ⟨lead, opens, steps, absolute⟩ := path.exists_lead
  have inner : ∀ step ∈ innerSteps path.text.toList,
      ∃ name, Place.isName name = true ∧ step = .name name := by
    intro step member
    cases isInner_of_mem_innerSteps member with
    | parent => exact absurd (steps ▸ List.mem_append_right _ member) down
    | name named => exact ⟨_, named, rfl⟩
  have kept : path.steps.filter (· != .current) = innerSteps path.text.toList := by
    have all : (innerSteps path.text.toList).filter (· != .current) =
        innerSteps path.text.toList := by
      rw [List.filter_eq_self]
      intro step member
      obtain ⟨name, -, rfl⟩ := inner step member
      rfl
    rw [steps, List.filter_append, all]
    cases opens with
    | root =>
      rw [absolute.mpr rfl] at relative
      cases relative
    | current => rfl
    | none => rfl
  refine ⟨(innerSteps path.text.toList).map Step.text, ?_, ?_, ?_⟩
  · rw [kept, List.map_map]
    refine (List.map_id _).symm.trans (List.map_congr_left fun step member => ?_)
    obtain ⟨name, -, rfl⟩ := inner step member
    rfl
  · intro name member
    obtain ⟨step, among, rfl⟩ := List.mem_map.mp member
    obtain ⟨name, named, rfl⟩ := inner step among
    exact named
  · intro name member c inside
    obtain ⟨step, among, rfl⟩ := List.mem_map.mp member
    obtain ⟨name, -, rfl⟩ := inner step among
    exact mem_of_mem_innerSteps among inside

end Path

namespace Glob

variable {names : Place}

/-- The names of a pattern before the first one with a special character. -/
def base (names : Place) : Place := names.takeWhile fun name => !name.toList.any isSpecial

/-- The names of a pattern from the first one with a special character on. -/
def rest (names : Place) : Place := names.dropWhile fun name => !name.toList.any isSpecial

theorem base_append_rest (names : Place) : base names ++ rest names = names :=
  List.takeWhile_append_dropWhile

theorem join_names (names : Place) : join (names.map .name) = names.path.text := by
  rw [join, Place.map_text_names, Place.path]

theorem proper_base (proper : ∀ name ∈ names, Place.isName name = true) :
    ∀ name ∈ base names, Place.isName name = true :=
  fun name member => proper name (List.takeWhile_subset _ member)

theorem proper_rest (proper : ∀ name ∈ names, Place.isName name = true) :
    ∀ name ∈ rest names, Place.isName name = true :=
  fun name member => proper name (List.dropWhile_subset _ member)

theorem split_eq {pattern : Path} (steps : pattern.steps.filter (· != .current) = names.map .name)
    (proper : ∀ name ∈ names, Place.isName name = true) :
    split pattern = ((base names).path, (rest names).map .name) := by
  rw [split, steps, List.span_eq_takeWhile_dropWhile, List.takeWhile_map, List.dropWhile_map]
  show (Path.ofSteps ((base names).map .name), (rest names).map Step.name) = _
  rw [Path.ofSteps_of_isInner (Path.isInner_of_mem_names (proper_base proper)),
    Place.map_text_names]
  rfl

theorem isPlain_path {place : Place}
    (plain : ∀ name ∈ place, name.toList.any isSpecial = false ∧ '\\' ∉ name.toList) :
    IsPlain place.path.text.toList := by
  intro c member
  rcases Place.mem_path member with rfl | ⟨name, among, inside⟩
  · exact ⟨rfl, by decide⟩
  · have known := plain name among
    rw [List.any_eq_false] at known
    exact ⟨Bool.eq_false_iff.mpr (known.1 c inside), fun same => known.2 (same ▸ inside)⟩

theorem isPlain_base (whole : ∀ name ∈ names, '\\' ∉ name.toList) :
    IsPlain (base names).path.text.toList :=
  isPlain_path fun name member => by
    have literal := List.mem_takeWhile_imp member
    exact ⟨by simpa using literal, whole name (List.takeWhile_subset _ member)⟩

/-- The path of a place does not end with a slash. -/
theorem exists_last {place : Place} (away : place ≠ [])
    (proper : ∀ name ∈ place, Place.isName name = true) :
    ∃ front c, place.path.text.toList = front ++ [c] ∧ c ≠ '/' := by
  obtain ⟨above, name, rfl⟩ := List.eq_nil_or_concat' place |>.resolve_left away
  have named := Place.isName_iff.mp (proper name (by simp))
  obtain ⟨before, c, ends⟩ := List.eq_nil_or_concat' name.toList |>.resolve_left
    (mt String.toList_eq_nil_iff.mp named.1)
  have solid : c ≠ '/' := fun same => named.2.2.2 (by rw [ends, same]; simp)
  have alone : (Place.path [name]).text = name := by rw [Place.path, String.intercalate_singleton]
  by_cases top : above = []
  · exact ⟨before, c, by rw [top, List.nil_append, alone, ends], solid⟩
  · refine ⟨(Place.path above).text.toList ++ '/' :: before, c, ?_, solid⟩
    rw [Place.toList_path_append top (List.cons_ne_nil _ _), alone, ends]
    simp

/-- A path that begins with the name of a directory is that of a place below it. -/
theorem exists_seen {place directory : Place} {seen : String} (away : place ≠ [])
    (below : directory ≠ []) (proper : ∀ name ∈ place, Place.isName name = true)
    (proper' : ∀ name ∈ directory, Place.isName name = true)
    (split : place.path.text.toList = directory.path.text.toList ++ '/' :: seen.toList) :
    ∃ others : Place, place = directory ++ others ∧ others ≠ [] ∧ seen = others.path.text := by
  have whole := Place.way_path away proper
  have top := Place.way_path below proper'
  rw [Tree.way] at whole top
  rw [split, Path.pieces_append, List.map_append, top] at whole
  have some_piece : (Path.pieces '/' seen.toList).map String.ofList ≠ [] := by
    simpa using Path.pieces_ne_nil '/' seen.toList
  refine ⟨_, whole.symm, some_piece, String.toList_inj.mp ?_⟩
  rw [← whole, Place.toList_path_append below some_piece] at split
  exact (List.cons.inj (List.append_cancel_left split)).2.symm

/-- What a glob matches of the places below the directory of its leading names. -/
theorem exists_below {whole : Glob} (proper : ∀ name ∈ names, Place.isName name = true)
    (noEscape : ∀ name ∈ names, '\\' ∉ name.toList) (special : rest names ≠ [])
    (accepted : ofText names.path.text = .ok whole) :
    ∃ glob, ofText (rest names).path.text = .ok glob ∧
      ∀ place : Place, place ≠ [] → (∀ name ∈ place, Place.isName name = true) →
        (whole.isMatch place.path.text = true ↔
          ∃ seen, place = base names ++ seen ∧ seen ≠ [] ∧ glob.isMatch seen.path.text = true) := by
  have parts := base_append_rest names
  by_cases top : base names = []
  · rw [top, List.nil_append] at parts
    refine ⟨whole, by rw [parts, accepted], fun place away _ => ?_⟩
    simp only [top, List.nil_append, exists_eq_left', away, ne_eq, not_false_eq_true, true_and]
  · obtain ⟨front, c, ends, solid⟩ := exists_last special (proper_rest proper)
    have text : names.path.text =
        String.ofList ((base names).path.text.toList ++ '/' :: (front ++ [c])) := by
      apply String.toList_inj.mp
      rw [String.toList_ofList, ← ends, ← Place.toList_path_append top special, parts]
    have text' : (rest names).path.text = String.ofList (front ++ [c]) := by
      rw [← ends, String.ofList_toList]
    rw [text] at accepted
    obtain ⟨glob, read, below⟩ := ofText_below (isPlain_base noEscape) solid accepted
    refine ⟨glob, by rw [text', read], fun place away named => ?_⟩
    have matched : whole.isMatch place.path.text = true ↔ ∃ seen : String,
        place.path.text.toList = (base names).path.text.toList ++ '/' :: seen.toList ∧
          glob.isMatch seen = true := below.isMatch_iff
    rw [matched]
    constructor
    · rintro ⟨seen, split, fits⟩
      obtain ⟨others, rfl, nonempty, rfl⟩ :=
        exists_seen away top named (proper_base proper) split
      exact ⟨others, rfl, nonempty, fits⟩
    · rintro ⟨seen, rfl, nonempty, fits⟩
      exact ⟨_, Place.toList_path_append top nonempty, fits⟩

end Glob

/-! Workspaces. -/

namespace Workspace

variable {workspace : Workspace}

/-- A workspace without links. -/
structure IsPlain (workspace : Workspace) : Prop where
  tree : workspace.tree.IsPlain
  directory : workspace.tree.get? workspace.directory = some .directory

/-- There is a file at a place, as it is seen from the directory of a workspace. -/
def HasFile (workspace : Workspace) (place : Place) : Prop :=
  ∃ content mode, workspace.tree.get? (workspace.directory ++ place) = some (.file content mode)

/-- Where the walk for a pattern starts: at a directory that exists and is not taken for the standard
input; or nowhere, where the pattern is a plain path, which must not be too long for the system. -/
inductive Starts (workspace : Workspace) (pattern : Path) : Prop
  | directory (place : Place) (special : (Glob.split pattern).2 ≠ [])
    (located : workspace.locate (Glob.entry (Glob.split pattern).1) = .ok place)
    (stands : workspace.tree.get? place = some .directory)
    (other : (Glob.split pattern).1 ≠ Glob.standardInput)
  | file (whole : (Glob.split pattern).2 = [])
    (short : (Glob.split pattern).1.text.utf8ByteSize < Tree.pathSizeLimit)

theorem HasFile.proper (plain : workspace.IsPlain) {place : Place}
    (file : workspace.HasFile place) :
    place ≠ [] ∧ ∀ name ∈ place, Place.isName name = true := by
  obtain ⟨content, mode, stands⟩ := file
  have away : place ≠ [] := by
    rintro rfl
    rw [List.append_nil, plain.directory] at stands
    cases stands
  have entry := workspace.tree.proper _ (Tree.mem_of_get? (by simp [away]) stands)
  have named : (workspace.directory ++ place).all Place.isName = true :=
    (Bool.and_eq_true_iff.mp entry).2
  exact ⟨away, fun name member =>
    List.all_eq_true.mp named name (List.mem_append_right _ member)⟩

/-- A path of names leads to the place of these names. -/
theorem locate_path_eq_ok (plain : workspace.IsPlain) {place found : Place}
    (proper : ∀ name ∈ place, Place.isName name = true)
    (located : workspace.locate place.path = .ok found) : found = workspace.directory ++ place := by
  rw [plain.tree.locate_eq_ok located, Path.placeFrom_eq_steps, Place.steps_path proper,
    Place.after_names]

theorem locate_entry_eq_ok (plain : workspace.IsPlain) {place found : Place}
    (proper : ∀ name ∈ place, Place.isName name = true)
    (located : workspace.locate (Glob.entry place.path) = .ok found) :
    found = workspace.directory ++ place := by
  unfold Glob.entry at located
  split_ifs at located with blank
  · have top : place = [] := by
      by_contra away
      exact Place.text_path_ne_empty proper away (String.isEmpty_iff.mp blank)
    rw [plain.tree.locate_eq_ok located, top, List.append_nil]
    rfl
  · exact locate_path_eq_ok plain proper located

theorem isFile_path (plain : workspace.IsPlain) {place : Place}
    (proper : ∀ name ∈ place, Place.isName name = true)
    (short : place.path.text.utf8ByteSize < Tree.pathSizeLimit) :
    workspace.isFile place.path = true ↔ workspace.HasFile place := by
  constructor
  · intro file
    unfold isFile at file
    cases located : workspace.locate place.path with
    | error fault =>
      rw [located] at file
      cases file
    | ok found =>
      rw [located, locate_path_eq_ok plain proper located] at file
      cases stands : workspace.tree.get? (workspace.directory ++ place) with
      | none =>
        simp only [stands] at file
        cases file
      | some node =>
        cases node with
        | file content mode => exact ⟨content, mode, stands⟩
        | directory | link target =>
          simp only [stands] at file
          cases file
  · intro file
    have away := (file.proper plain).1
    obtain ⟨content, mode, stands⟩ := file
    have located : workspace.locate place.path = .ok (workspace.directory ++ place) :=
      plain.tree.locate_path away stands proper short
    unfold isFile
    simp only [located, stands]

theorem mem_filesBelow_iff {directory seen : Place} :
    seen ∈ workspace.tree.filesBelow (workspace.directory ++ directory) ↔
      workspace.HasFile (directory ++ seen) := by
  rw [Tree.mem_filesBelow, HasFile, ← List.append_assoc]
  constructor
  · rintro ⟨content, mode, member⟩
    exact ⟨content, mode, Tree.get?_of_mem member⟩
  · rintro ⟨content, mode, stands⟩
    refine ⟨content, mode, Tree.mem_of_get? ?_ stands⟩
    rintro root
    rw [root] at stands
    cases stands

end Workspace

namespace Glob

variable {workspace : Workspace} {names : Place}

theorem join_path {directory seen : Place} (proper : ∀ name ∈ directory, Place.isName name = true)
    (proper' : ∀ name ∈ seen, Place.isName name = true) (below : seen ≠ []) :
    directory.path.join seen.path = (directory ++ seen).path := by
  have relative := Place.isAbsolute_path proper'
  rw [Path.join, relative, if_neg Bool.false_ne_true]
  by_cases top : directory = []
  · rw [top]
    rfl
  · obtain ⟨front, c, ends, solid⟩ := exists_last top proper
    have nonempty : directory.path.text.isEmpty = false :=
      Bool.eq_false_iff.mpr fun blank =>
        Place.text_path_ne_empty proper top (String.isEmpty_iff.mp blank)
    have open_end : (directory.path.text.toList.getLast? == some '/') = false := by
      rw [ends, List.getLast?_concat]
      simpa using solid
    have text : directory.path.text ++ "/" ++ seen.path.text = (directory ++ seen).path.text := by
      apply String.toList_inj.mp
      rw [Place.toList_path_append top below, String.toList_append, String.toList_append,
        List.append_assoc]
      rfl
    rw [nonempty, open_end, if_neg (by simp), text]

/-- The places of some files in their order, as paths and as lists of names. -/
theorem mergeSort_path {places : List Place}
    (proper : ∀ place ∈ places, ∀ name ∈ place, Place.isName name = true) :
    (places.map Place.path).mergeSort Path.le =
      (places.mergeSort fun place other => decide (place ≤ other)).map Place.path :=
  (List.map_mergeSort fun place member other member' =>
    (Place.le_path (proper place member) (proper other member')).symm).symm

theorem pairwise_mergeSort {places : List Place} (nodup : places.Nodup) :
    (places.mergeSort fun place other => decide (place ≤ other)).Pairwise (· < ·) := by
  have sorted : (places.mergeSort fun place other => decide (place ≤ other)).Pairwise
      fun place other => decide (place ≤ other) = true := by
    refine List.pairwise_mergeSort (fun a b c first second => ?_) (fun a b => ?_) places
    · rw [decide_eq_true_eq] at first second ⊢
      exact le_trans first second
    · simpa using le_total a b
  have apart : (places.mergeSort fun place other => decide (place ≤ other)).Nodup :=
    (List.mergeSort_perm _ _).nodup_iff.mpr nodup
  exact (sorted.and apart).imp fun {a b} both =>
    lt_of_le_of_ne (by simpa using both.1) both.2

theorem expand_of_names {pattern : Path} (proper : ∀ name ∈ names, Place.isName name = true)
    (steps : pattern.steps.filter (· != .current) = names.map .name) :
    expand workspace pattern =
      if rest names = [] then
        .ok (if workspace.isFile (base names).path then [(base names).path] else [])
      else
        (ofText (rest names).path.text).mapError (.unreadable (rest names).path.text) >>= fun glob =>
        candidates workspace (base names).path >>= fun found =>
        .ok (((found.filter fun path => glob.isMatch path.text).map
          (base names).path.join).mergeSort Path.le) := by
  rw [expand, split_eq steps proper]
  dsimp only
  rw [join_names]
  cases literal : rest names with
  | nil => rfl
  | cons name others => rfl

/-- A plain path names the file to which it leads, if there is one. -/
theorem expand_file (plain : workspace.IsPlain) {pattern : Path} {whole : Glob}
    (proper : ∀ name ∈ names, Place.isName name = true)
    (noEscape : ∀ name ∈ names, '\\' ∉ name.toList)
    (steps : pattern.steps.filter (· != .current) = names.map .name) (literal : rest names = [])
    (accepted : ofText names.path.text = .ok whole)
    (short : names.path.text.utf8ByteSize < Tree.pathSizeLimit) :
    ∃ places : List Place, expand workspace pattern = .ok (places.map Place.path) ∧
      places.Pairwise (· < ·) ∧
      ∀ place, place ∈ places ↔
        workspace.HasFile place ∧ whole.isMatch place.path.text = true := by
  have all : base names = names := by
    have parts := base_append_rest names
    rwa [literal, List.append_nil] at parts
  have text : IsPlain names.path.text.toList := by
    have known := isPlain_base noEscape
    rwa [all] at known
  have matched : ∀ place, workspace.HasFile place →
      (whole.isMatch place.path.text = true ↔ place = names) := by
    intro place file
    rw [isMatch_of_plain text accepted]
    constructor
    · intro same
      exact Place.path_injective (file.proper plain).2 proper (congrArg Path.mk same)
    · rintro rfl
      rfl
  rw [expand_of_names proper steps, if_pos literal, all]
  by_cases file : workspace.HasFile names
  · rw [if_pos ((Workspace.isFile_path plain proper short).mpr file)]
    refine ⟨[names], rfl, List.pairwise_singleton _ _, fun place => ?_⟩
    rw [List.mem_singleton]
    constructor
    · rintro rfl
      exact ⟨file, (matched place file).mpr rfl⟩
    · rintro ⟨here, fits⟩
      exact (matched place here).mp fits
  · rw [if_neg (mt (Workspace.isFile_path plain proper short).mp file)]
    refine ⟨[], rfl, List.Pairwise.nil, fun place => ?_⟩
    constructor
    · intro member
      cases member
    · rintro ⟨here, fits⟩
      exact absurd ((matched place here).mp fits ▸ here) file

/-- A pattern names the files below the directory of its leading names that the rest of it
matches. -/
theorem expand_directory (plain : workspace.IsPlain) {pattern : Path} {whole : Glob}
    (proper : ∀ name ∈ names, Place.isName name = true)
    (noEscape : ∀ name ∈ names, '\\' ∉ name.toList)
    (steps : pattern.steps.filter (· != .current) = names.map .name) (special : rest names ≠ [])
    (accepted : ofText names.path.text = .ok whole) {found : Place}
    (located : workspace.locate (entry (base names).path) = .ok found)
    (stands : workspace.tree.get? found = some .directory)
    (other : (base names).path ≠ standardInput) :
    ∃ places : List Place, expand workspace pattern = .ok (places.map Place.path) ∧
      places.Pairwise (· < ·) ∧
      ∀ place, place ∈ places ↔
        workspace.HasFile place ∧ whole.isMatch place.path.text = true := by
  obtain ⟨glob, read, below⟩ := exists_below proper noEscape special accepted
  obtain rfl := Workspace.locate_entry_eq_ok plain (proper_base proper) located
  let seen := workspace.tree.filesBelow (workspace.directory ++ base names)
  have file : ∀ {place}, place ∈ seen ↔ workspace.HasFile (base names ++ place) :=
    Workspace.mem_filesBelow_iff
  have away : ∀ {place}, place ∈ seen → place ≠ [] := by
    rintro place member rfl
    obtain ⟨content, mode, at_file⟩ := file.mp member
    rw [List.append_nil, stands] at at_file
    cases at_file
  have named : ∀ {place}, place ∈ seen → ∀ name ∈ place, Place.isName name = true :=
    fun member name among =>
      ((file.mp member).proper plain).2 name (List.mem_append_right _ among)
  let places := (seen.filter fun place => glob.isMatch place.path.text).map (base names ++ ·)
  have mem_places : ∀ {place}, place ∈ places ↔
      ∃ others ∈ seen, glob.isMatch others.path.text = true ∧ base names ++ others = place := by
    intro place
    simp only [places, List.mem_map, List.mem_filter, and_assoc]
  have nodup : places.Nodup :=
    ((Tree.nodup_filesBelow _ _).filter _).map fun _ _ => List.append_cancel_left
  have joined : (((seen.map Place.path).filter fun path => glob.isMatch path.text).map
      (base names).path.join) = places.map Place.path := by
    rw [List.filter_map, List.map_map, List.map_map]
    refine List.map_congr_left fun others member => ?_
    have member := List.mem_of_mem_filter member
    exact join_path (proper_base proper) (named member) (away member)
  have proper_places : ∀ place ∈ places, ∀ name ∈ place, Place.isName name = true := by
    intro place member
    obtain ⟨others, among, -, rfl⟩ := mem_places.mp member
    exact ((file.mp among).proper plain).2
  have candidates : candidates workspace (base names).path = .ok (seen.map Place.path) := by
    rw [Glob.candidates, if_neg other, located]
    rfl
  refine ⟨places.mergeSort fun place other => decide (place ≤ other), ?_,
    pairwise_mergeSort nodup, fun place => ?_⟩
  · rw [expand_of_names proper steps, if_neg special, read, candidates,
      ← mergeSort_path proper_places, ← joined]
    rfl
  · rw [List.mem_mergeSort, mem_places]
    constructor
    · rintro ⟨others, member, fits, rfl⟩
      have here := file.mp member
      exact ⟨here, (below _ (here.proper plain).1 (here.proper plain).2).mpr
        ⟨others, rfl, away member, fits⟩⟩
    · rintro ⟨here, fits⟩
      obtain ⟨others, rfl, -, fits⟩ := (below _ (here.proper plain).1 (here.proper plain).2).mp fits
      exact ⟨others, file.mpr here, fits, rfl⟩

/-- A pattern names exactly the files that it matches as a whole, in the order of their names and
each of them once. It is relative, does not go up and has no backslash, and its leading names lead to
a directory that is not taken for the standard input; or it is a plain path. -/
theorem expand_eq_matching (plain : workspace.IsPlain) {pattern : Path} {whole : Glob}
    (relative : pattern.isAbsolute = false) (down : .parent ∉ pattern.steps)
    (noEscape : '\\' ∉ pattern.text.toList)
    (accepted : ofText (join (pattern.steps.filter (· != .current))) = .ok whole)
    (starts : workspace.Starts pattern) :
    ∃ places : List Place, expand workspace pattern = .ok (places.map Place.path) ∧
      places.Pairwise (· < ·) ∧
      ∀ place, place ∈ places ↔
        workspace.HasFile place ∧ whole.isMatch place.path.text = true := by
  obtain ⟨names, steps, proper, written⟩ := Path.exists_names relative down
  have clean : ∀ name ∈ names, '\\' ∉ name.toList := fun name member inside =>
    noEscape (written name member _ inside)
  have parts := split_eq steps proper
  rw [steps, join_names] at accepted
  cases starts with
  | directory place special located stands other =>
    rw [parts] at special located other
    exact expand_directory plain proper clean steps (by simpa using special) accepted located stands
      other
  | file literal short =>
    rw [parts] at literal short
    have literal : rest names = [] := by simpa using literal
    have all := base_append_rest names
    rw [literal, List.append_nil] at all
    rw [all] at short
    exact expand_file plain proper clean steps literal accepted short

/-- Notes in a directory, one of them in a hidden directory, and a note beside it. -/
def notes : Workspace where
  tree :=
    { nodes := [(["a"], .directory), (["a", "b.md"], .file [] 420), (["a", ".h"], .directory),
        (["a", ".h", "c.md"], .file [] 420), (["d.md"], .file [] 420)]
      unique := by decide
      proper := by decide }
  directory := []

theorem isPlain_notes : notes.IsPlain where
  tree :=
    { inside := by decide
      noLink := by simp [notes]
      names := by decide }
  directory := rfl

theorem notes_matched :
    let pattern : Path := ⟨"./a/**/*.md"⟩
    let whole : Glob :=
      ⟨[.literal 'a', .inner, .many, .literal '.', .literal 'm', .literal 'd']⟩
    ofText (join (pattern.steps.filter (· != .current))) = .ok whole ∧
      ∃ places : List Place, expand notes pattern = .ok (places.map Place.path) ∧
        places.Pairwise (· < ·) ∧
        (∀ place, place ∈ places ↔ notes.HasFile place ∧ whole.isMatch place.path.text = true) ∧
        ["a", "b.md"] ∈ places ∧ ["a", ".h", "c.md"] ∈ places ∧ ["d.md"] ∉ places := by
  intro pattern whole
  have steps : pattern.steps = [.current, .name "a", .name "**", .name "*.md"] := by decide
  have parts : split pattern = (⟨"a"⟩, [.name "**", .name "*.md"]) := by
    rw [split, steps]
    decide
  have accepted : ofText (join (pattern.steps.filter (· != .current))) = .ok whole := by
    rw [steps]
    rfl
  have starts : notes.Starts pattern := by
    refine .directory ["a"] ?_ ?_ rfl ?_ <;> rw [parts]
    · exact List.cons_ne_nil _ _
    · rfl
    · decide
  obtain ⟨places, found, sorted, exactly⟩ := expand_eq_matching isPlain_notes (by decide)
    (by rw [steps]; decide) (by decide) accepted starts
  have near : whole.isMatch (Place.path ["a", "b.md"]).text = true := by decide
  have hidden : whole.isMatch (Place.path ["a", ".h", "c.md"]).text = true := by decide
  have beside : whole.isMatch (Place.path ["d.md"]).text = false := by decide
  refine ⟨accepted, places, found, sorted, exactly, (exactly _).mpr ⟨⟨[], 420, rfl⟩, near⟩,
    (exactly _).mpr ⟨⟨[], 420, rfl⟩, hidden⟩, fun member => ?_⟩
  rw [((exactly _).mp member).2] at beside
  cases beside

/-- Below a directory that is taken for the standard input nothing is found. -/
theorem expand_standardInput {pattern : Path} {steps : List Step} {glob : Glob}
    (parts : split pattern = (standardInput, steps)) (special : steps ≠ [])
    (read : ofText (join steps) = .ok glob) : expand workspace pattern = .ok [] := by
  rw [expand, parts]
  dsimp only
  rw [List.isEmpty_eq_false_iff.mpr special, if_neg Bool.false_ne_true, read, candidates, if_pos rfl]
  show Except.ok (List.mergeSort [] Path.le) = _
  rw [List.mergeSort_nil]

/-- A directory of the name that stands for the standard input, with a file. -/
def dashed : Workspace where
  tree :=
    { nodes := [(["-"], .directory), (["-", "a.md"], .file [120, 10] 420)]
      unique := by decide
      proper := by decide }
  directory := []

/-- The directory exists, and the pattern as a whole matches the file in it, but the file is not
found. -/
theorem dash_not_walked :
    let pattern : Path := ⟨"./-/*.md"⟩
    let whole : Glob :=
      ⟨[.literal '-', .literal '/', .many, .literal '.', .literal 'm', .literal 'd']⟩
    dashed.IsPlain ∧ pattern.isAbsolute = false ∧ .parent ∉ pattern.steps ∧
      '\\' ∉ pattern.text.toList ∧
      ofText (join (pattern.steps.filter (· != .current))) = .ok whole ∧
      dashed.locate (split pattern).1 = .ok ["-"] ∧ dashed.tree.get? ["-"] = some .directory ∧
      dashed.HasFile ["-", "a.md"] ∧ whole.isMatch (Place.path ["-", "a.md"]).text = true ∧
      expand dashed pattern = .ok [] := by
  intro pattern whole
  have plain : dashed.IsPlain :=
    { tree :=
        { inside := by decide
          noLink := by simp [dashed]
          names := by decide }
      directory := rfl }
  have steps : pattern.steps = [.current, .name "-", .name "*.md"] := by decide
  have parts : split pattern = (standardInput, [.name "*.md"]) := by
    rw [split, steps]
    decide
  have read : ofText (join [.name "*.md"]) =
      .ok ⟨[.many, .literal '.', .literal 'm', .literal 'd']⟩ := by rfl
  have accepted : ofText (join (pattern.steps.filter (· != .current))) = .ok whole := by
    rw [steps]
    rfl
  have located : dashed.locate (split pattern).1 = .ok ["-"] := by
    rw [parts]
    rfl
  exact ⟨plain, by decide, by rw [steps]; decide, by decide, accepted, located, rfl,
    ⟨[120, 10], 420, rfl⟩, by decide, expand_standardInput parts (List.cons_ne_nil _ _) read⟩

end Glob

end Transclude
