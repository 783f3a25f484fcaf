import Mathlib.Data.List.Induction
import Mathlib.Data.List.Lex
import Mathlib.Data.List.Pairwise
import Mathlib.Data.List.Sort
import Mathlib.Data.Prod.Lex
import Mathlib.Data.String.Basic
import Transclude.Proofs.EmbeddedText
import Transclude.Proofs.ReplaceRun
import Transclude.Proofs.TargetPaths
import Transclude.Proofs.WalkedTree

/-!
The targets of a command. Of paths with the same steps only the one that comes first is a target;
behind those that are named stand those that the glob matches, in the order of paths. A glob names
no file twice. But paths with other steps can have one normal form, and a document that is spelled
in two such ways is a target twice.
-/

namespace Transclude

/-! The order of paths. -/

namespace Step

/-- What decides where a step comes in the order. -/
def key : Step → Nat ×ₗ String
  | name text => toLex (3, text)
  | step => toLex (step.rank, "")

theorem compare_eq_gt (step other : Step) : compare step other = .gt ↔ other.key < step.key := by
  show Step.compare step other = .gt ↔ _
  cases step <;> cases other <;>
    simp [Step.compare, key, rank, Prod.Lex.toLex_lt_toLex, compare_gt_iff_gt]

theorem compare_eq_eq (step other : Step) : compare step other = .eq ↔ step.key = other.key := by
  show Step.compare step other = .eq ↔ _
  cases step <;> cases other <;> simp [Step.compare, key, rank]

end Step

namespace Path

theorem compareLex_eq_gt_iff (steps others : List Step) :
    le.compareLex steps others = .gt ↔ others.map Step.key < steps.map Step.key := by
  induction steps generalizing others with
  | nil => cases others <;> simp [le.compareLex]
  | cons step rest ih =>
    cases others with
    | nil => simp [le.compareLex]
    | cons step' rest' =>
      rw [le.compareLex, Ordering.then_eq_gt, Step.compare_eq_gt, Step.compare_eq_eq, ih,
        List.map_cons, List.map_cons, List.cons_lt_cons_iff, eq_comm (a := step.key)]

theorem le_iff {path other : Path} :
    path.le other = true ↔ path.steps.map Step.key ≤ other.steps.map Step.key := by
  rw [le, ← not_lt, ← compareLex_eq_gt_iff]
  cases le.compareLex path.steps other.steps <;> simp [Ordering.isLE]

theorem pairwise_mergeSort_le (paths : List Path) :
    (paths.mergeSort le).Pairwise fun path other => path.le other = true := by
  refine List.pairwise_mergeSort (fun path other third first second => ?_)
    (fun path other => ?_) paths
  · rw [le_iff] at first second ⊢
    exact le_trans first second
  · rw [Bool.or_eq_true, le_iff, le_iff]
    exact le_total _ _

/-! Paths with the same steps. -/

theorem same_iff {path other : Path} : path.same other = true ↔ path.steps = other.steps :=
  beq_iff_eq

theorem normalize_eq_of_same {path other : Path} (same : path.same other = true) :
    path.normalize = other.normalize := by
  rw [normalize, normalize, normalSteps, normalSteps, same_iff.mp same]

theorem any_same_iff {paths : List Path} {path : Path} :
    paths.any path.same = true ↔ ∃ other ∈ paths, path.steps = other.steps := by
  simp only [List.any_eq_true, same_iff]

/-! One path of each kind. -/

/-- The paths of a list that are not the same as one in front of them. -/
def firstSpellings (paths : List Path) : List Path :=
  (paths.zipIdx.filter fun entry => !(paths.take entry.2).any entry.1.same).map Prod.fst

theorem firstSpellings_sublist (paths : List Path) : (firstSpellings paths).Sublist paths := by
  have all : paths.zipIdx.map Prod.fst = paths := List.zipIdx_map_fst 0 paths
  conv_rhs => rw [← all]
  exact List.filter_sublist.map Prod.fst

theorem firstSpellings_concat (paths : List Path) (path : Path) :
    firstSpellings (paths ++ [path]) =
      if paths.any path.same then firstSpellings paths else firstSpellings paths ++ [path] := by
  have earlier : (paths.zipIdx.filter fun entry =>
      !((paths ++ [path]).take entry.2).any entry.1.same) =
      paths.zipIdx.filter fun entry => !(paths.take entry.2).any entry.1.same := by
    refine List.filter_congr fun entry member => ?_
    have inside : entry.2 < paths.length + 0 := List.snd_lt_of_mem_zipIdx member
    rw [List.take_append_of_le_length (by omega)]
  rw [firstSpellings, List.zipIdx_append, List.filter_append, earlier, List.map_append,
    ← firstSpellings, Nat.zero_add, List.zipIdx_singleton, List.filter_singleton,
    List.take_left]
  cases paths.any path.same <;> simp

theorem any_firstSpellings (paths : List Path) (path : Path) :
    (firstSpellings paths).any path.same = paths.any path.same := by
  induction paths using List.reverseRecOn with
  | nil => rfl
  | append_singleton paths last ih =>
    rw [firstSpellings_concat, List.any_append, List.any_cons, List.any_nil, Bool.or_false]
    split
    · next known =>
      -- Whatever is the same as the last path is the same as one in front of it.
      rw [ih, eq_comm, Bool.or_eq_left_iff_imp]
      intro alike
      obtain ⟨other, member, steps⟩ := any_same_iff.mp known
      exact any_same_iff.mpr ⟨other, member, (same_iff.mp alike).trans steps⟩
    · rw [List.any_append, List.any_cons, List.any_nil, Bool.or_false, ih]

theorem pairwise_firstSpellings (paths : List Path) :
    (firstSpellings paths).Pairwise fun path other => path.same other = false := by
  induction paths using List.reverseRecOn with
  | nil => exact .nil
  | append_singleton paths last ih =>
    rw [firstSpellings_concat]
    split
    · exact ih
    · next fresh =>
      rw [List.pairwise_append]
      refine ⟨ih, List.pairwise_singleton _ _, fun path member other alone => ?_⟩
      rw [List.mem_singleton.mp alone, ← Bool.not_eq_true, same_iff]
      intro steps
      have earlier := (firstSpellings_sublist paths).subset member
      exact fresh (any_same_iff.mpr ⟨path, earlier, steps.symm⟩)

/-- Behind some paths, others that differ from one another stand where none in front is the same. -/
theorem firstSpellings_append (front : List Path) {back : List Path}
    (apart : back.Pairwise fun path other => path.same other = false) :
    firstSpellings (front ++ back) =
      firstSpellings front ++ back.filter fun path => !front.any path.same := by
  induction back using List.reverseRecOn with
  | nil => rw [List.append_nil, List.filter_nil, List.append_nil]
  | append_singleton back last ih =>
    rw [List.pairwise_append] at apart
    have others : back.any last.same = false := by
      rw [← Bool.not_eq_true, any_same_iff]
      rintro ⟨other, member, steps⟩
      have differs := apart.2.2 other member last (List.mem_singleton_self last)
      rw [same_iff.mpr steps.symm] at differs
      cases differs
    rw [← List.append_assoc, firstSpellings_concat, ih apart.1, List.any_append, others,
      Bool.or_false, List.filter_append, List.filter_singleton]
    cases front.any last.same <;> simp

theorem eraseDupsBy_loop_concat (paths : List Path) (last : Path) (kept : List Path) :
    List.eraseDupsBy.loop same (paths ++ [last]) kept =
      let all := List.eraseDupsBy.loop same paths kept
      if all.any last.same then all else all ++ [last] := by
  induction paths generalizing kept with
  | nil => cases known : kept.any last.same <;> simp [List.eraseDupsBy.loop, known]
  | cons first rest ih =>
    rw [List.cons_append, List.eraseDupsBy.loop, List.eraseDupsBy.loop]
    cases kept.any first.same <;> exact ih _

/-- Taking away repeated paths leaves the first spelling of each. -/
theorem eraseDupsBy_same (paths : List Path) : paths.eraseDupsBy same = firstSpellings paths := by
  induction paths using List.reverseRecOn with
  | nil => rfl
  | append_singleton paths last ih =>
    rw [List.eraseDupsBy] at ih
    rw [List.eraseDupsBy, eraseDupsBy_loop_concat, ih, firstSpellings_concat]
    dsimp only
    rw [any_firstSpellings]

example : firstSpellings [⟨"a//b"⟩, ⟨"c"⟩, ⟨"a/b/"⟩, ⟨"./c"⟩] = [⟨"a//b"⟩, ⟨"c"⟩, ⟨"./c"⟩] := by
  decide

theorem exists_same_firstSpellings {paths : List Path} {path : Path} (member : path ∈ paths) :
    ∃ first ∈ firstSpellings paths, path.same first = true := by
  have known := any_firstSpellings paths path
  rw [any_same_iff.mpr ⟨path, member, rfl⟩, any_same_iff] at known
  exact known.imp fun first => And.imp_right same_iff.mpr

/-- Paths with different normal forms. -/
def Apart (path other : Path) : Prop := path.normalize ≠ other.normalize

instance : Std.Symm Apart := ⟨fun _ _ => Ne.symm⟩

theorem Apart.same_eq_false {path other : Path} (apart : path.Apart other) :
    path.same other = false :=
  Bool.eq_false_iff.mpr fun alike => apart (normalize_eq_of_same alike)

/-- The first spellings of some paths have different normal forms exactly if a path in front is the
same as any other of its normal form. Those behind have different normal forms among themselves. -/
theorem pairwise_apart_iff (front : List Path) {back : List Path} (apart : back.Pairwise Apart) :
    (firstSpellings (front ++ back)).Pairwise Apart ↔
      ∀ path ∈ front, ∀ other ∈ front ++ back,
        path.normalize = other.normalize → path.same other = true := by
  constructor
  · intro distinct path member other member' equal
    obtain ⟨first, kept, alike⟩ := exists_same_firstSpellings (List.mem_append_left back member)
    obtain ⟨first', kept', alike'⟩ := exists_same_firstSpellings member'
    have one : first = first' := by
      by_contra differ
      refine distinct.forall kept kept' differ ?_
      rw [← normalize_eq_of_same alike, ← normalize_eq_of_same alike', equal]
    rw [same_iff] at alike alike' ⊢
    rw [alike, alike', one]
  · intro known
    refine (pairwise_firstSpellings _).imp_of_mem fun {path other} kept kept' differ equal => ?_
    have alike : path.same other = true := by
      have member := (firstSpellings_sublist _).subset kept
      have member' := (firstSpellings_sublist _).subset kept'
      rcases List.mem_append.mp member with before | behind
      · exact known path before other member' equal
      · rcases List.mem_append.mp member' with before' | behind'
        · exact same_iff.mpr (same_iff.mp (known other before' path member equal.symm)).symm
        · have one : path = other := by
            by_contra other_path
            exact apart.forall behind behind' other_path equal
          exact same_iff.mpr (congrArg steps one)
    rw [differ] at alike
    cases alike

/-! Paths without detours. -/

/-- A path has no detours if its steps are those of its normal form: it has no `.`, and `..` only
where it leads out of the directory in which it starts. -/
def IsDirect (path : Path) : Prop := path.steps = path.normalSteps

theorem foldl_walk_names (names : Place) (walked : List Step) :
    (names.map Step.name).foldl walk walked = (names.map Step.name).reverse ++ walked := by
  induction names generalizing walked with
  | nil => rfl
  | cons name rest ih =>
    rw [List.map_cons, List.foldl_cons, ih, List.reverse_cons, List.append_assoc]
    rfl

theorem same_of_isDirect {path other : Path} (direct : path.IsDirect) (direct' : other.IsDirect)
    (alike : path.normalize = other.normalize) : path.same other = true := by
  have steps : path.normalSteps = other.normalSteps :=
    normalSteps_eq_of_samePlace (normalize_eq_iff.mp alike)
  rw [same_iff, direct, direct', steps]

end Path

namespace Place

variable {place other : Place}

/-- Joined to a directory, places that differ have different normal forms. -/
theorem eq_of_normalize_join (proper : ∀ name ∈ place, isName name = true)
    (proper' : ∀ name ∈ other, isName name = true) {directory : Path}
    (alike : (directory.join place.path).normalize = (directory.join other.path).normalize) :
    place = other := by
  have led := Path.normalize_eq_iff.mp alike [] rfl
  rw [Path.placeFrom_join, Path.placeFrom_join, Path.placeFrom_eq_steps,
    Path.placeFrom_eq_steps _ other.path, steps_path proper, steps_path proper', after_names,
    after_names] at led
  exact List.append_cancel_left led

theorem isDirect_join (proper : ∀ name ∈ place, isName name = true) {directory : Path}
    (direct : directory.IsDirect) : (directory.join place.path).IsDirect := by
  have relative := isAbsolute_path proper
  have inner := innerSteps_path proper
  rw [Path.IsDirect, Path.steps_join relative (by rw [steps_path proper, inner]),
    Path.normalSteps_join relative, steps_path proper, inner, Path.foldl_walk_names, direct,
    List.reverse_append, List.reverse_reverse, List.reverse_reverse]

end Place

namespace Glob

variable {workspace : Workspace} {pattern : Path} {found : List Path}

/-- The files below a directory are found under names that differ from one another. -/
theorem candidates_eq_ok {directory : Path} (went : candidates workspace directory = .ok found) :
    ∃ seen : List Place, seen.Nodup ∧
      (∀ place ∈ seen, ∀ name ∈ place, Place.isName name = true) ∧
      found = seen.map Place.path := by
  unfold candidates at went
  split at went
  · cases went
    exact ⟨[], .nil, List.forall_mem_nil _, rfl⟩
  · split at went
    · cases went
    · next place _ =>
      cases went
      refine ⟨workspace.tree.filesBelow place, workspace.tree.nodup_filesBelow place, ?_, rfl⟩
      intro seen member name among
      obtain ⟨content, mode, entry⟩ := Tree.mem_filesBelow.mp member
      have proper := (Bool.and_eq_true_iff.mp (workspace.tree.proper _ entry)).2
      exact List.all_eq_true.mp proper name (List.mem_append_right _ among)

/-- What a pattern names is its directory, or files below its directory. -/
theorem expand_eq_ok (went : expand workspace pattern = .ok found) :
    found.Sublist [(split pattern).1] ∨
      ∃ seen : List Place, seen.Nodup ∧
        (∀ place ∈ seen, ∀ name ∈ place, Place.isName name = true) ∧
        found = (seen.map fun place => (split pattern).1.join place.path).mergeSort Path.le := by
  unfold expand at went
  dsimp only at went
  cases literal : (split pattern).2.isEmpty with
  | true =>
    rw [literal, if_pos rfl] at went
    cases went
    left
    split
    · exact .refl _
    · exact List.nil_sublist _
  | false =>
    rw [literal, if_neg Bool.false_ne_true] at went
    cases read : ofText (join (split pattern).2) with
    | error fault =>
      rw [read] at went
      cases went
    | ok glob =>
      cases near : candidates workspace (split pattern).1 with
      | error obstacle =>
        rw [read, near] at went
        cases went
      | ok names =>
        rw [read, near] at went
        cases went
        obtain ⟨seen, nodup, proper, rfl⟩ := candidates_eq_ok near
        refine .inr ⟨seen.filter fun place => glob.isMatch place.path.text, nodup.filter _,
          fun place member => proper place (List.mem_of_mem_filter member), ?_⟩
        rw [List.filter_map, List.map_map]
        rfl

theorem pairwise_le_of_expand (went : expand workspace pattern = .ok found) :
    found.Pairwise fun path other => path.le other = true := by
  rcases expand_eq_ok went with single | ⟨seen, -, -, rfl⟩
  · exact (List.pairwise_singleton _ _).sublist single
  · exact Path.pairwise_mergeSort_le _

/-- No file is named twice. -/
theorem pairwise_apart_of_expand (went : expand workspace pattern = .ok found) :
    found.Pairwise Path.Apart := by
  rcases expand_eq_ok went with single | ⟨seen, nodup, proper, rfl⟩
  · exact (List.pairwise_singleton _ _).sublist single
  · have apart : (seen.map fun place => (split pattern).1.join place.path).Pairwise
        Path.Apart := by
      rw [List.pairwise_map]
      refine nodup.imp_of_mem fun {place other} member member' differ alike => ?_
      exact differ (Place.eq_of_normalize_join (proper place member) (proper other member') alike)
    exact apart.perm (List.mergeSort_perm _ _).symm fun differ => Ne.symm differ

theorem isDirect_of_expand (went : expand workspace pattern = .ok found)
    (direct : (split pattern).1.IsDirect) : ∀ path ∈ found, path.IsDirect := by
  intro path member
  rcases expand_eq_ok went with single | ⟨seen, -, proper, rfl⟩
  · rw [List.mem_singleton.mp (single.subset member)]
    exact direct
  · rw [List.mem_mergeSort] at member
    obtain ⟨place, among, rfl⟩ := List.mem_map.mp member
    exact Place.isDirect_join (proper place among) direct

end Glob

namespace Command

/-- What the glob of a command names, in its order; nothing without a glob. -/
def matched (workspace : Workspace) (options : Options) : Except Glob.Obstacle (List Path) :=
  match options.glob with
  | some pattern => Glob.expand workspace pattern
  | none => .ok []

theorem targets_eq (workspace : Workspace) (options : Options) :
    targets workspace options = (matched workspace options).map fun found =>
      Path.firstSpellings (options.files ++ found) := by
  have all : ∀ found, (options.files ++ found).eraseDupsBy Path.same =
      Path.firstSpellings (options.files ++ found) := fun found => Path.eraseDupsBy_same _
  unfold targets matched
  cases options.glob with
  | none => exact congrArg Except.ok (all [])
  | some pattern =>
    dsimp only
    cases Glob.expand workspace pattern with
    | error obstacle => rfl
    | ok found => exact congrArg Except.ok (all found)

/-- The documents that an outcome prints, checks or replaces. -/
def Outcome.documents? : Outcome → Option (List Document)
  | printed documents | checked documents _ | replaced documents => some documents
  | aborted _ | settings _ => none

theorem documents?_deliver (options : Options) (documents : List Document) :
    (deliver options documents).documents? = some documents := by
  unfold deliver
  split_ifs <;> rfl

variable {workspace : Workspace} {options : Options} {found paths : List Path}

/-- A command that delivers documents delivers its targets, each of them once. -/
theorem path_documents?_run (collected : targets workspace options = .ok paths)
    {documents : List Document}
    (delivered : (run workspace options).documents? = some documents) :
    documents.map Document.path = paths := by
  cases plain : options.printConfig with
  | true =>
    unfold run at delivered
    rw [plain] at delivered
    split at delivered <;> cases delivered
  | false =>
    rcases stops_or_renders workspace options with ⟨cause, stops⟩ | ⟨rules, rendered, renders⟩
    · rw [run_of_stops plain stops] at delivered
      cases delivered
    · rw [renders.run_eq plain, documents?_deliver] at delivered
      cases delivered
      exact Except.ok.inj (renders.collected.symm.trans collected)

theorem matched_eq_ok (went : matched workspace options = .ok found) :
    found = [] ∨ ∃ pattern ∈ options.glob, Glob.expand workspace pattern = .ok found := by
  unfold matched at went
  split at went
  · next pattern given => exact .inr ⟨pattern, given, went⟩
  · cases went
    exact .inl rfl

theorem pairwise_le_matched (went : matched workspace options = .ok found) :
    found.Pairwise fun path other => path.le other = true := by
  rcases matched_eq_ok went with rfl | ⟨pattern, -, expanded⟩
  · exact .nil
  · exact Glob.pairwise_le_of_expand expanded

theorem pairwise_apart_matched (went : matched workspace options = .ok found) :
    found.Pairwise Path.Apart := by
  rcases matched_eq_ok went with rfl | ⟨pattern, -, expanded⟩
  · exact .nil
  · exact Glob.pairwise_apart_of_expand expanded

theorem isDirect_matched (went : matched workspace options = .ok found)
    (direct : ∀ pattern ∈ options.glob, (Glob.split pattern).1.IsDirect) :
    ∀ path ∈ found, path.IsDirect := by
  rcases matched_eq_ok went with rfl | ⟨pattern, given, expanded⟩
  · exact List.forall_mem_nil _
  · exact Glob.isDirect_of_expand expanded (direct pattern given)

/-- The targets of a command are the paths that are named, at their first appearance, and behind
them what its glob matches, in order, as far as it is not among them. Each of these paths is the
same as one of the targets, no two of which are the same, and what the command prints, checks or
replaces are its targets, each of them once. Two targets have one normal form exactly if a path that
is named has another spelling, with other steps, among those that are named or matched. This does
not happen where no path takes a detour. -/
theorem targets_distinct (workspace : Workspace) (options : Options) :
    match matched workspace options with
    | .error obstacle => targets workspace options = .error obstacle
    | .ok found =>
      let paths := Path.firstSpellings options.files ++
        found.filter fun path => !options.files.any path.same
      targets workspace options = .ok paths ∧
      found.Pairwise (fun path other => path.le other = true) ∧
      (∀ path ∈ options.files ++ found, ∃ target ∈ paths, path.same target = true) ∧
      paths.Pairwise (fun path other => path.same other = false) ∧
      (∀ documents, (run workspace options).documents? = some documents →
        documents.map Document.path = paths) ∧
      (paths.Pairwise Path.Apart ↔
        ∀ path ∈ options.files, ∀ other ∈ options.files ++ found,
          path.normalize = other.normalize → path.same other = true) ∧
      ((∀ path ∈ options.files, path.IsDirect) →
        (∀ pattern ∈ options.glob, (Glob.split pattern).1.IsDirect) →
        paths.Pairwise Path.Apart) := by
  rw [targets_eq]
  cases went : matched workspace options with
  | error obstacle => rfl
  | ok found =>
    have apart := pairwise_apart_matched went
    have listed := Path.firstSpellings_append options.files (apart.imp Path.Apart.same_eq_false)
    have distinct := Path.pairwise_apart_iff options.files apart
    have collected : targets workspace options =
        .ok (Path.firstSpellings (options.files ++ found)) := by rw [targets_eq, went]; rfl
    dsimp only
    rw [← listed]
    refine ⟨rfl, pairwise_le_matched went, fun path => Path.exists_same_firstSpellings,
      Path.pairwise_firstSpellings _, fun documents => path_documents?_run collected, distinct,
      fun direct below => ?_⟩
    have matched_direct := isDirect_matched went below
    rw [distinct]
    intro path member other member' equal
    refine Path.same_of_isDirect (direct path member) ?_ equal
    exact (List.mem_append.mp member').elim (direct other) (matched_direct other)

/-- A directory with one document. -/
def oneDocument : Workspace where
  tree :=
    { nodes := [(["a.md"], .file [120, 10] 420)]
      unique := by decide
      proper := by decide }
  directory := []

/-- The document is named with a `.` in front, and matched by a glob that is written alike. -/
def respelled : Options := { files := [⟨"./a.md"⟩], glob := some ⟨"./*.md"⟩ }

theorem targets_respelled : targets oneDocument respelled = .ok [⟨"./a.md"⟩, ⟨"a.md"⟩] := by
  decide +kernel

theorem renders_respelled :
    Renders oneDocument respelled Rule.defaults
      [⟨⟨"./a.md"⟩, "x\n", "x\n"⟩, ⟨⟨"a.md"⟩, "x\n", "x\n"⟩] where
  configured := ⟨none, by rfl, rfl⟩
  collected := targets_respelled
  nonempty := List.cons_ne_nil _ _
  rendered := by
    have went : ∀ path : Path,
        (processText oneDocument.opener Rule.defaults path "x\n").outcome = .ok "x\n" := by
      intro path
      rw [EmbedRule.defaults_eq]
      refine EmbedRule.processText_pair_of_no_start ?_ ?_ <;>
        simp only [EmbedRule.fileRule, EmbedRule.regionRule, Markers.parameter?_standard] <;>
        decide
    have read : ∀ path : Path, oneDocument.locate path = .ok ["a.md"] →
        (readWhole oneDocument.opener path).outcome = .ok "x\n" := fun path located =>
      readWhole_eq_ok.mpr ⟨_, _, 420, located, rfl, by decide⟩
    rw [List.forall_mem_cons, List.forall_mem_singleton]
    exact ⟨render_eq_ok.mpr ⟨rfl, read _ rfl, went _⟩, render_eq_ok.mpr ⟨rfl, read _ rfl, went _⟩⟩

/-- What is matched by the glob loses its `.` and what is named keeps it, so that both are targets
and the document is printed twice. -/
theorem respelled_printed_twice :
    targets oneDocument respelled = .ok [⟨"./a.md"⟩, ⟨"a.md"⟩] ∧
      (Path.mk "./a.md").normalize = (Path.mk "a.md").normalize ∧
      run oneDocument respelled =
        .printed [⟨⟨"./a.md"⟩, "x\n", "x\n"⟩, ⟨⟨"a.md"⟩, "x\n", "x\n"⟩] :=
  ⟨targets_respelled, by decide, renders_respelled.run_eq rfl⟩

end Command

end Transclude
