import Transclude.Command.Report
import Transclude.Proofs.Outline
import Transclude.Proofs.RunLaws

/-!
What a command does as a whole. It is stopped by the first thing that goes wrong with its settings,
its targets or their rendering, and then leaves all files as they are. Otherwise all its targets
were rendered before the first is replaced, and replacing them changes the contents of the files
that are out of date and nothing else.
-/

namespace Transclude

namespace Workspace

variable {workspace : Workspace} {path : Path} {place : Place}

theorem opener_of_lost {error : IoError} (lost : workspace.locate path = .error error) :
    workspace.opener path = .error error := by
  unfold opener
  rw [lost]
  rfl

theorem opener_of_file {content : List UInt8} {mode : Nat}
    (located : workspace.locate path = .ok place)
    (stands : workspace.tree.get? place = some (.file content mode)) :
    workspace.opener path = .ok { bytes := content } := by
  rw [opener_of_located located, stands]

/-- What is no file can be opened but not read. -/
theorem opener_of_not_file (located : workspace.locate path = .ok place)
    (other : ∀ content mode, workspace.tree.get? place ≠ some (.file content mode)) :
    workspace.opener path = .ok { bytes := [], failure := some .isDirectory } := by
  rw [opener_of_located located]
  split
  next content mode stands => exact absurd stands (other content mode)
  next => rfl

end Workspace

/-- A file is read as a whole when the path leads to a file and the file holds text. -/
theorem readWhole_eq_ok {workspace : Workspace} {path : Path} {text : String} :
    (readWhole workspace.opener path).outcome = .ok text ↔
      ∃ place content mode, workspace.locate path = .ok place ∧
        workspace.tree.get? place = some (.file content mode) ∧
        Stream.decode content = .ok text := by
  have read : (readWhole workspace.opener path).outcome =
      ((workspace.opener path).mapError (Failure.ofIo path)).bind fun stream =>
        stream.text.mapError (Failure.ofIo path) := by
    rw [readWhole, Run.outcome_bind]
    rfl
  rw [read]
  cases located : workspace.locate path with
  | error error =>
    rw [Workspace.opener_of_lost located]
    simp [Except.mapError, Except.bind]
  | ok place =>
    by_cases file : ∃ content mode, workspace.tree.get? place = some (.file content mode)
    · obtain ⟨content, mode, stands⟩ := file
      rw [Workspace.opener_of_file located stands]
      constructor
      · intro went
        refine ⟨place, content, mode, rfl, stands, ?_⟩
        change (Stream.decode content).mapError (Failure.ofIo path) = .ok text at went
        cases decoded : Stream.decode content with
        | error error =>
          rw [decoded] at went
          cases went
        | ok held =>
          rw [decoded] at went
          cases went
          rfl
      · intro ⟨found, held, mode', here, also, decoded⟩
        cases here
        rw [stands] at also
        cases also
        show (Stream.decode content).mapError (Failure.ofIo path) = .ok text
        rw [decoded]
        rfl
    · rw [Workspace.opener_of_not_file located fun content mode stands =>
        file ⟨content, mode, stands⟩]
      constructor
      · intro went
        cases went
      · intro ⟨found, content, mode, here, stands, _⟩
        cases here
        exact absurd ⟨content, mode, stands⟩ file

namespace Command

/-- The options of a command that replaces its documents. -/
def Options.replacing (options : Options) : Options :=
  { options with replace := true, check := false, printConfig := false }

/-- The options of a command that checks its documents. -/
def Options.checking (options : Options) : Options :=
  { options with replace := false, check := true, printConfig := false }

/-- A command has settings, if any, that can be loaded and that make up these rules. -/
def Configured (workspace : Workspace) (options : Options) (rules : List Rule) : Prop :=
  ∃ settings, loadSettings workspace options = .ok settings ∧ rulesOf settings = .ok rules

/-- What stops a command: the first thing that goes wrong with its settings, its targets and their
rendering. -/
inductive Stops (workspace : Workspace) (options : Options) : Abort → Prop
  | settings {failure : Failure} :
    loadSettings workspace options = .error failure → Stops workspace options (.failure failure)
  | rules {settings : Option Settings} {failure : Failure} :
    loadSettings workspace options = .ok settings → rulesOf settings = .error failure →
      Stops workspace options (.failure failure)
  | glob {rules : List Rule} {obstacle : Glob.Obstacle} :
    Configured workspace options rules → targets workspace options = .error obstacle →
      Stops workspace options (.obstacle obstacle)
  | noFiles {rules : List Rule} :
    Configured workspace options rules → targets workspace options = .ok [] →
      Stops workspace options .noFiles
  | target {rules : List Rule} {before after : List Path} {path : Path} {failure : Failure} :
    Configured workspace options rules → targets workspace options = .ok (before ++ path :: after) →
      (∀ earlier ∈ before, ∃ document, (render workspace rules earlier).outcome = .ok document) →
      (render workspace rules path).outcome = .error failure →
      Stops workspace options (.failure failure)

/-- The rendered targets of a command that nothing stops. -/
structure Renders (workspace : Workspace) (options : Options) (rules : List Rule)
    (documents : List Document) : Prop where
  configured : Configured workspace options rules
  collected : targets workspace options = .ok (documents.map Document.path)
  nonempty : documents ≠ []
  rendered : ∀ document ∈ documents,
    (render workspace rules document.path).outcome = .ok document

variable {workspace : Workspace} {options : Options} {rules : List Rule}

/-- A document is rendered from its text as it stands. -/
theorem render_eq_ok {path : Path} {document : Document} :
    (render workspace rules path).outcome = .ok document ↔
      document.path = path ∧
      (readWhole workspace.opener path).outcome = .ok document.current ∧
      (processText workspace.opener rules path document.current).outcome = .ok document.output := by
  unfold render
  simp only [Run.bind_eq_ok, Run.outcome_pure, Except.ok.injEq]
  constructor
  · rintro ⟨current, read, output, went, rfl⟩
    exact ⟨rfl, read, went⟩
  · rintro ⟨rfl, read, went⟩
    exact ⟨document.current, read, document.output, went, rfl⟩

theorem renderAll_cons (path : Path) (rest : List Path) :
    renderAll workspace rules (path :: rest) =
      match (render workspace rules path).outcome with
      | .error failure => .error failure
      | .ok document => (renderAll workspace rules rest).map (document :: ·) := by
  unfold renderAll
  rw [List.mapM_cons]
  cases (render workspace rules path).outcome with
  | error failure => rfl
  | ok document =>
    cases rest.mapM fun path => (render workspace rules path).outcome <;> rfl

/-- Either all targets can be rendered, or there is a first one that cannot. -/
theorem exists_rendered_or_failed (workspace : Workspace) (rules : List Rule) (paths : List Path) :
    (∃ documents : List Document, documents.map Document.path = paths ∧
      ∀ document ∈ documents, (render workspace rules document.path).outcome = .ok document) ∨
    ∃ before path after failure, paths = before ++ path :: after ∧
      (∀ earlier ∈ before, ∃ document, (render workspace rules earlier).outcome = .ok document) ∧
      (render workspace rules path).outcome = .error failure := by
  induction paths with
  | nil => exact .inl ⟨[], rfl, List.forall_mem_nil _⟩
  | cons path rest ih =>
    cases first : (render workspace rules path).outcome with
    | error failure => exact .inr ⟨[], path, rest, failure, rfl, List.forall_mem_nil _, first⟩
    | ok document =>
      have same : document.path = path := (render_eq_ok.mp first).1
      rcases ih with ⟨documents, paths, rendered⟩ |
          ⟨before, last, after, failure, rfl, earlier, failed⟩
      · refine .inl ⟨document :: documents, ?_, ?_⟩
        · rw [List.map_cons, same, paths]
        · rw [List.forall_mem_cons, same]
          exact ⟨first, rendered⟩
      · refine .inr ⟨path :: before, last, after, failure, rfl, ?_, failed⟩
        rw [List.forall_mem_cons]
        exact ⟨⟨document, first⟩, earlier⟩

theorem renderAll_of_rendered {documents : List Document}
    (rendered : ∀ document ∈ documents,
      (render workspace rules document.path).outcome = .ok document) :
    renderAll workspace rules (documents.map Document.path) = .ok documents := by
  induction documents with
  | nil => rfl
  | cons document rest ih =>
    rw [List.forall_mem_cons] at rendered
    rw [List.map_cons, renderAll_cons, rendered.1, ih rendered.2]
    rfl

theorem renderAll_of_first {before after : List Path} {path : Path} {failure : Failure}
    (earlier : ∀ earlier ∈ before, ∃ document,
      (render workspace rules earlier).outcome = .ok document)
    (failed : (render workspace rules path).outcome = .error failure) :
    renderAll workspace rules (before ++ path :: after) = .error failure := by
  induction before with
  | nil => rw [List.nil_append, renderAll_cons, failed]
  | cons first before ih =>
    rw [List.forall_mem_cons] at earlier
    obtain ⟨⟨document, went⟩, others⟩ := earlier
    rw [List.cons_append, renderAll_cons, went, ih others]
    rfl

theorem run_of_loaded {settings : Option Settings} (plain : options.printConfig = false)
    (loaded : loadSettings workspace options = .ok settings) :
    run workspace options =
      match documents workspace options settings with
      | .error cause => .aborted cause
      | .ok documents => deliver options documents := by
  unfold run
  rw [loaded]
  dsimp only
  rw [plain]
  exact if_neg Bool.false_ne_true

theorem documents_of_targets {settings : Option Settings} (made : rulesOf settings = .ok rules)
    {path : Path} {rest : List Path} (collected : targets workspace options = .ok (path :: rest)) :
    documents workspace options settings =
      (renderAll workspace rules (path :: rest)).mapError .failure := by
  unfold documents prepare
  rw [made, collected]
  rfl

/-- A command that has its rules collects its targets and renders all of them before it delivers. -/
theorem run_of_configured (plain : options.printConfig = false)
    (configured : Configured workspace options rules) :
    run workspace options =
      match targets workspace options with
      | .error obstacle => .aborted (.obstacle obstacle)
      | .ok paths =>
        if paths = [] then .aborted .noFiles
        else
          match renderAll workspace rules paths with
          | .error failure => .aborted (.failure failure)
          | .ok documents => deliver options documents := by
  obtain ⟨settings, loaded, made⟩ := configured
  rw [run_of_loaded plain loaded]
  cases collected : targets workspace options with
  | error obstacle =>
    unfold documents prepare
    rw [made, collected]
    rfl
  | ok paths =>
    cases paths with
    | nil =>
      unfold documents prepare
      rw [made, collected]
      rfl
    | cons path rest =>
      rw [documents_of_targets made collected]
      dsimp only
      rw [if_neg (List.cons_ne_nil path rest)]
      cases renderAll workspace rules (path :: rest) <;> rfl

/-- What goes wrong first is the outcome of a command. -/
theorem run_of_stops {cause : Abort} (plain : options.printConfig = false)
    (stops : Stops workspace options cause) : run workspace options = .aborted cause := by
  cases stops with
  | settings failed =>
    unfold run
    rw [failed]
  | rules loaded failed =>
    unfold run documents prepare
    rw [loaded]
    simp only [plain, Bool.false_eq_true, if_false]
    rw [failed]
    rfl
  | glob configured failed => rw [run_of_configured plain configured, failed]
  | noFiles configured collected =>
    rw [run_of_configured plain configured, collected]
    exact if_pos rfl
  | @target rules before after path failure configured collected earlier failed =>
    rw [run_of_configured plain configured, collected]
    have nonempty := List.append_ne_nil_of_right_ne_nil before (List.cons_ne_nil path after)
    dsimp only
    rw [if_neg nonempty, renderAll_of_first earlier failed]

theorem Renders.run_eq {documents : List Document} (plain : options.printConfig = false)
    (renders : Renders workspace options rules documents) :
    run workspace options = deliver options documents := by
  obtain ⟨configured, collected, nonempty, rendered⟩ := renders
  rw [run_of_configured plain configured, collected]
  dsimp only
  rw [if_neg (mt List.map_eq_nil_iff.mp nonempty), renderAll_of_rendered rendered]

/-- A command is stopped or renders all of its targets. -/
theorem stops_or_renders (workspace : Workspace) (options : Options) :
    (∃ cause, Stops workspace options cause) ∨
      ∃ rules documents, Renders workspace options rules documents := by
  cases loaded : loadSettings workspace options with
  | error failure => exact .inl ⟨_, .settings loaded⟩
  | ok settings =>
    cases made : rulesOf settings with
    | error failure => exact .inl ⟨_, .rules loaded made⟩
    | ok rules =>
      have configured : Configured workspace options rules := ⟨settings, loaded, made⟩
      cases collected : targets workspace options with
      | error obstacle => exact .inl ⟨_, .glob configured collected⟩
      | ok paths =>
        by_cases none : paths = []
        · exact .inl ⟨_, .noFiles configured (none ▸ collected)⟩
        · rcases exists_rendered_or_failed workspace rules paths with
            ⟨documents, rfl, rendered⟩ | ⟨before, path, after, failure, rfl, earlier, failed⟩
          · exact .inr ⟨rules, documents, configured, collected,
              fun empty => none (congrArg (List.map Document.path) empty), rendered⟩
          · exact .inl ⟨_, .target configured collected earlier failed⟩

/-! What is done with the documents has no influence on their rendering. -/

/-- Options that name the same settings and the same targets. -/
structure Options.SameRequest (options others : Options) : Prop where
  config : others.config = options.config
  files : others.files = options.files
  glob : others.glob = options.glob

theorem Options.sameRequest_replacing (options : Options) :
    options.SameRequest options.replacing := ⟨rfl, rfl, rfl⟩

theorem Options.sameRequest_checking (options : Options) :
    options.SameRequest options.checking := ⟨rfl, rfl, rfl⟩

section SameRequest

variable {others : Options} (same : options.SameRequest others)
include same

theorem Options.SameRequest.loadSettings_eq (workspace : Workspace) :
    loadSettings workspace others = loadSettings workspace options := by
  unfold loadSettings
  rw [same.config]

theorem Options.SameRequest.targets_eq (workspace : Workspace) :
    targets workspace others = targets workspace options := by
  unfold targets
  rw [same.files, same.glob]

theorem Configured.congr (configured : Configured workspace options rules) :
    Configured workspace others rules := by
  obtain ⟨settings, loaded, made⟩ := configured
  exact ⟨settings, (same.loadSettings_eq workspace).trans loaded, made⟩

theorem Stops.congr {cause : Abort} (stops : Stops workspace options cause) :
    Stops workspace others cause := by
  have loading := same.loadSettings_eq workspace
  have collecting := same.targets_eq workspace
  cases stops with
  | settings failed => exact .settings (loading.trans failed)
  | rules loaded failed => exact .rules (loading.trans loaded) failed
  | glob configured failed => exact .glob (configured.congr same) (collecting.trans failed)
  | noFiles configured collected =>
    exact .noFiles (configured.congr same) (collecting.trans collected)
  | target configured collected earlier failed =>
    exact .target (configured.congr same) (collecting.trans collected) earlier failed

theorem Renders.congr {documents : List Document}
    (renders : Renders workspace options rules documents) :
    Renders workspace others rules documents :=
  ⟨renders.configured.congr same, (same.targets_eq workspace).trans renders.collected,
    renders.nonempty, renders.rendered⟩

end SameRequest

theorem Stops.replacing {cause : Abort} (stops : Stops workspace options cause) :
    Stops workspace options.replacing cause :=
  stops.congr options.sameRequest_replacing

theorem Renders.run_replacing {documents : List Document}
    (renders : Renders workspace options rules documents) :
    run workspace options.replacing = .replaced documents :=
  (renders.congr options.sameRequest_replacing).run_eq rfl

theorem Renders.run_checking {documents : List Document}
    (renders : Renders workspace options rules documents) :
    run workspace options.checking = .checked documents options.diff :=
  (renders.congr options.sameRequest_checking).run_eq rfl

/-- A target that was rendered is a file, through all links, and holds the text that was read. -/
theorem Renders.exists_file {documents : List Document} {document : Document}
    (renders : Renders workspace options rules documents) (member : document ∈ documents) :
    ∃ place content mode, workspace.locate document.path = .ok place ∧
      workspace.tree.get? place = some (.file content mode) ∧
      Stream.decode content = .ok document.current :=
  readWhole_eq_ok.mp (render_eq_ok.mp (renders.rendered document member)).2.1

/-- What has become of a tree in which documents were replaced. -/
structure Replaced (workspace : Workspace) (documents : List Document) (left : Workspace) :
    Prop where
  directory : left.directory = workspace.directory
  /-- A file that is out of date holds its rendering, and the last one where it has several. -/
  written : ∀ before document after place content mode,
    documents = before ++ document :: after → document.output ≠ document.current →
    workspace.locate document.path = .ok place →
    workspace.tree.get? place = some (.file content mode) →
    (∀ later ∈ after, later.output ≠ later.current → workspace.locate later.path ≠ .ok place) →
      left.tree.get? place = some (.file document.output.toUTF8.data.toList mode)
  kept : ∀ place, (∀ document ∈ documents, document.output ≠ document.current →
    workspace.locate document.path ≠ .ok place) →
      left.tree.get? place = workspace.tree.get? place
  links : ∀ place target,
    left.tree.get? place = some (.link target) ↔ workspace.tree.get? place = some (.link target)
  /-- No file was added, and none was removed. -/
  places : ∀ place, (left.tree.get? place).isSome = (workspace.tree.get? place).isSome

theorem replaced_writeAll (workspace : Workspace) (documents : List Document) :
    Replaced workspace documents (writeAll workspace documents) := by
  have alike := alike_writeAll workspace documents
  refine ⟨alike.directory, ?_, ?_, ?_, ?_⟩
  · intro before document after place content mode split outdated located stands last
    rw [split]
    exact get?_writeAll_of_last (Document.isStale_iff.mpr outdated) located stands
      fun later member stale => last later member (Document.isStale_iff.mp stale)
  · intro place elsewhere
    exact get?_writeAll_of_ne fun document member stale =>
      elsewhere document member (Document.isStale_iff.mp stale)
  · intro place target
    rcases Tree.get?_of_outline alike.outline place with same | ⟨_, _, _, here, there⟩
    · rw [same]
    · simp [here, there]
  · intro place
    rcases Tree.get?_of_outline alike.outline place with same | ⟨_, _, _, here, there⟩
    · rw [same]
    · rw [here, there]
      rfl

/-- A command that replaces its documents is stopped by the first thing that goes wrong, reports it
and leaves all files as they are. Otherwise it has rendered all of its targets as they stood before,
and those that are out of date are replaced. -/
theorem replace_all_or_nothing (workspace : Workspace) (options : Options) :
    (∀ cause, run workspace options.replacing = .aborted cause ↔ Stops workspace options cause) ∧
    (∀ cause, Stops workspace options cause →
      (run workspace options.replacing).code = 2 ∧
      (∀ color, (run workspace options.replacing).diagnostics color = cause.text color) ∧
      (run workspace options.replacing).applyTo workspace = workspace) ∧
    ((∀ cause, ¬Stops workspace options cause) →
      ∃ rules documents, Configured workspace options rules ∧
        targets workspace options = .ok (documents.map Document.path) ∧
        (∀ document ∈ documents,
          (∃ place content mode, workspace.locate document.path = .ok place ∧
            workspace.tree.get? place = some (.file content mode) ∧
            Stream.decode content = .ok document.current) ∧
          (processText workspace.opener rules document.path document.current).outcome =
            .ok document.output) ∧
        (run workspace options.replacing).code = 0 ∧
        Replaced workspace documents ((run workspace options.replacing).applyTo workspace)) := by
  have stopped : ∀ cause, Stops workspace options cause →
      run workspace options.replacing = .aborted cause :=
    fun cause stops => run_of_stops rfl stops.replacing
  refine ⟨fun cause => ⟨fun aborted => ?_, stopped cause⟩, fun cause stops => ?_, fun free => ?_⟩
  · rcases stops_or_renders workspace options with ⟨other, stops⟩ | ⟨rules, documents, renders⟩
    · have same := (stopped other stops).symm.trans aborted
      cases same
      exact stops
    · have same := renders.run_replacing.symm.trans aborted
      cases same
  · rw [stopped cause stops]
    exact ⟨rfl, fun color => rfl, rfl⟩
  · rcases stops_or_renders workspace options with ⟨other, stops⟩ | ⟨rules, documents, renders⟩
    · exact absurd stops (free other)
    · refine ⟨rules, documents, renders.configured, renders.collected, ?_, ?_, ?_⟩
      · intro document member
        exact ⟨renders.exists_file member, (render_eq_ok.mp (renders.rendered document member)).2.2⟩
      · rw [renders.run_replacing]
        rfl
      · rw [renders.run_replacing]
        exact replaced_writeAll workspace documents

end Command

end Transclude
