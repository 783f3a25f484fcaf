import Transclude.Proofs.OpenedFiles
import Transclude.Proofs.ReplaceRun
import Transclude.Proofs.ReportedLine

/-!
A tree in which documents were replaced is up to date. The next command finds the same settings and
targets, reads what the last one wrote, and embeds the same texts, since none of the files that were
replaced is among those that it consults; so every document comes out as it stands.
-/

namespace Transclude

theorem Settings.ofFile_congr {files others : Opener} {path : Path}
    (same : files path = others path) : ofFile files path = ofFile others path := by
  unfold ofFile readWhole access
  rw [same]

namespace Command

variable {workspace : Workspace} {options : Options} {rules : List Rule}
  {documents : List Document}

/-- The file of settings that a command reads, if there is one. -/
def settingsFile? (workspace : Workspace) (options : Options) : Option Path :=
  match options.config with
  | some path => some path
  | none => Settings.find? workspace workspace.path

theorem loadSettings_eq (workspace : Workspace) (options : Options) :
    loadSettings workspace options =
      match settingsFile? workspace options with
      | some path => (Settings.ofFile workspace.opener path).outcome.map some
      | none => .ok none := by
  unfold loadSettings settingsFile?
  cases options.config with
  | some path => rfl
  | none =>
    unfold Settings.load
    cases Settings.find? workspace workspace.path with
    | none => rfl
    | some path =>
      show (Settings.ofFile workspace.opener path >>= fun held => pure (some held)).outcome = _
      rw [Run.outcome_bind]
      rfl

/-- Documents whose replacement touches nothing else that the command consults, and which both rules
bring up to date for good. -/
structure Settling (workspace : Workspace) (options : Options) (rules : List Rule)
    (documents : List Document) : Prop where
  distinct : documents.Pairwise fun first second =>
    workspace.locate first.path ≠ workspace.locate second.path
  settings : ∀ path, settingsFile? workspace options = some path →
    ∀ target ∈ documents, workspace.locate path ≠ workspace.locate target.path
  embeds : ∀ document ∈ documents,
    ∀ path ∈ (processText workspace.opener rules document.path document.current).opened,
      ∀ target ∈ documents, workspace.locate path ≠ workspace.locate target.path
  repeatable : ∀ first second : EmbedRule, rules = [first.toRule, second.toRule] →
    ∀ document ∈ documents,
      EmbedRule.Repeatable first second workspace.opener document.path document.current

/-- A document that holds its rendering. -/
def Document.settled (document : Document) : Document :=
  { document with current := document.output }

theorem isStale_settled (document : Document) : document.settled.isStale = false := by
  simp [Document.settled, Document.isStale]

theorem Configured.unique {others : List Rule} (configured : Configured workspace options rules)
    (also : Configured workspace options others) : rules = others := by
  obtain ⟨settings, loaded, made⟩ := configured
  obtain ⟨held, also_loaded, also_made⟩ := also
  rw [loaded] at also_loaded
  cases also_loaded
  rw [made] at also_made
  cases also_made
  rfl

theorem Configured.accepted (configured : Configured workspace options rules) :
    EmbedRule.Accepted rules := by
  obtain ⟨settings, -, made⟩ := configured
  cases settings with
  | none =>
    cases made
    exact .inl rfl
  | some settings => exact .inr ⟨settings, made⟩

/-- A path that leads to none of the documents is opened as before they were replaced. -/
theorem opener_writeAll {path : Path}
    (elsewhere : ∀ target ∈ documents, workspace.locate path ≠ workspace.locate target.path) :
    (writeAll workspace documents).opener path = workspace.opener path := by
  apply (alike_writeAll workspace documents).opener_eq
  intro place located
  apply get?_writeAll_of_ne
  intro target member _ same
  exact elsewhere target member (located.trans same.symm)

/-- Where none of the documents holds the settings, the next command loads the same ones. -/
theorem loadSettings_writeAll
    (elsewhere : ∀ path, settingsFile? workspace options = some path →
      ∀ target ∈ documents, workspace.locate path ≠ workspace.locate target.path) :
    loadSettings (writeAll workspace documents) options = loadSettings workspace options := by
  have alike := alike_writeAll workspace documents
  have file : settingsFile? (writeAll workspace documents) options =
      settingsFile? workspace options := by
    unfold settingsFile?
    rw [alike.path_eq, alike.find?_eq]
  rw [loadSettings_eq, file, loadSettings_eq]
  cases found : settingsFile? workspace options with
  | none => rfl
  | some path =>
    dsimp only
    rw [Settings.ofFile_congr (opener_writeAll (elsewhere path found))]

/-- Where all targets are different files, each holds its rendering afterwards. -/
theorem readWhole_writeAll (renders : Renders workspace options rules documents)
    (distinct : documents.Pairwise fun first second =>
      workspace.locate first.path ≠ workspace.locate second.path)
    {document : Document} (member : document ∈ documents) :
    (readWhole (writeAll workspace documents).opener document.path).outcome =
      .ok document.output := by
  obtain ⟨place, content, mode, located, stands, decoded⟩ := renders.exists_file member
  have leads := ((alike_writeAll workspace documents).locate_eq document.path).trans located
  obtain ⟨before, after, split⟩ := List.append_of_mem member
  rw [split, List.pairwise_append, List.pairwise_cons] at distinct
  -- no other document leads to this place, neither one before it nor one behind
  obtain ⟨-, ⟨later, -⟩, earlier⟩ := distinct
  have after_elsewhere : ∀ other ∈ after, other.isStale = true →
      workspace.locate other.path ≠ .ok place := by
    intro other here _ same
    exact later other here (located.trans same.symm)
  cases stale : document.isStale with
  | true =>
    have written : (writeAll workspace (before ++ document :: after)).tree.get? place =
        some (.file (Stream.ofText document.output).bytes mode) :=
      get?_writeAll_of_last stale located stands after_elsewhere
    rw [← split] at written
    exact readWhole_eq_ok.mpr ⟨place, _, mode, leads, written, Stream.decode_ofText document.output⟩
  | false =>
    have kept : (writeAll workspace documents).tree.get? place = workspace.tree.get? place := by
      apply get?_writeAll_of_ne
      rw [split, List.forall_mem_append, List.forall_mem_cons]
      refine ⟨fun other here _ same => ?_, ?_, after_elsewhere⟩
      · exact earlier other here document (List.mem_cons_self ..) (same.trans located.symm)
      · intro outdated
        rw [stale] at outdated
        cases outdated
    have same : document.current = document.output := by
      simpa [Document.isStale] using stale
    rw [← kept] at stands
    rw [same] at decoded
    exact readWhole_eq_ok.mpr ⟨place, content, mode, leads, stands, decoded⟩

/-- What was rendered is rendered again from the files that were replaced, and stays. -/
theorem Renders.again (renders : Renders workspace options rules documents)
    (settling : Settling workspace options rules documents) :
    Renders (writeAll workspace documents) options rules (documents.map Document.settled) := by
  have alike := alike_writeAll workspace documents
  refine ⟨?_, ?_, ?_, ?_⟩
  · obtain ⟨settings, loaded, made⟩ := renders.configured
    exact ⟨settings, (loadSettings_writeAll settling.settings).trans loaded, made⟩
  · rw [alike.targets_eq, renders.collected, List.map_map]
    rfl
  · exact mt List.map_eq_nil_iff.mp renders.nonempty
  · intro settled member
    obtain ⟨document, here, rfl⟩ := List.mem_map.mp member
    obtain ⟨-, -, went⟩ := render_eq_ok.mp (renders.rendered document here)
    obtain ⟨first, second, rfl, -⟩ := renders.configured.accepted.exists_pair
    have read := readWhole_writeAll renders settling.distinct here
    refine render_eq_ok.mpr ⟨rfl, read, ?_⟩
    refine EmbedRule.processText_again_of_agree went ?_ (settling.repeatable _ _ rfl document here)
    intro path opened
    exact (opener_writeAll (settling.embeds document here path opened)).symm

/-- The files as a command leaves them that replaces its documents. -/
def afterReplacing (workspace : Workspace) (options : Options) : Workspace :=
  (run workspace options.replacing).applyTo workspace

/-- After a command that replaced documents without touching anything else that it consults, there
is nothing left to do: a check finds all of them up to date, and replacing them again changes
nothing. -/
theorem check_after_replace (workspace : Workspace) (options : Options)
    (exits : (run workspace options.replacing).code = 0)
    (settling : ∀ rules documents, Configured workspace options rules →
      run workspace options.replacing = .replaced documents →
        Settling workspace options rules documents) :
    (run (afterReplacing workspace options) options.checking).code = 0 ∧
    (run (afterReplacing workspace options) options.replacing).code = 0 ∧
    afterReplacing (afterReplacing workspace options) options =
      afterReplacing workspace options := by
  rcases stops_or_renders workspace options with ⟨cause, stops⟩ | ⟨rules, documents, renders⟩
  · rw [run_of_stops rfl stops.replacing] at exits
    cases exits
  · have settling := settling rules documents renders.configured renders.run_replacing
    have left : afterReplacing workspace options = writeAll workspace documents := by
      rw [afterReplacing, renders.run_replacing]
      rfl
    have again := renders.again settling
    have fresh : ∀ document ∈ documents.map Document.settled, document.isStale = false :=
      List.forall_mem_map.mpr fun document _ => isStale_settled document
    have none : (documents.map Document.settled).filter Document.isStale = [] := by
      rw [List.filter_eq_nil_iff]
      intro document member
      rw [fresh document member]
      exact Bool.false_ne_true
    rw [left]
    refine ⟨?_, ?_, ?_⟩
    · rw [again.run_checking]
      show (if (documents.map Document.settled).any Document.isStale then 1 else 0) = 0
      rw [if_neg]
      simpa using fresh
    · rw [again.run_replacing]
      rfl
    · rw [afterReplacing, again.run_replacing]
      show writeAll (writeAll workspace documents) (documents.map Document.settled) = _
      rw [writeAll, none, List.foldl_nil]

open EmbedRule

/-- A document with two blocks, reached through a link, and the files that the blocks name. -/
def linkedDocument : Workspace where
  tree :=
    { nodes := [(["d"], .link ⟨"e"⟩), (["e"], .file (Stream.ofText twoBlocks).bytes 420),
        (["a"], .file (Stream.ofText "x\n").bytes 420),
        (["b"], .file (Stream.ofText "x\n").bytes 420)]
      proper := by decide }
  directory := []

/-- The command that has the document for its only target. -/
def onlyTarget : Options where
  files := [⟨"d"⟩]

theorem linkedDocument_opens :
    (processText oneLineFiles [fileRule.toRule, regionRule.toRule] ⟨"d"⟩ twoBlocks).opened =
      [⟨"a"⟩, ⟨"b"⟩] := by
  obtain ⟨nodes, went, -, opened⟩ := opened_processText_pair twoBlocks_runs
  rw [twoBlocks_apply] at went
  cases went
  rw [opened, pieces_twoBlocks, pieces_twoBlocksHalf]
  with_unfolding_all rfl

/-- The files beside the document hold one line each. -/
theorem linkedDocument_agrees :
    ∀ path ∈ (processText oneLineFiles [fileRule.toRule, regionRule.toRule] ⟨"d"⟩ twoBlocks).opened,
      oneLineFiles path = linkedDocument.opener path := by
  have a : linkedDocument.locate ⟨"a"⟩ = .ok ["a"] := by decide
  have b : linkedDocument.locate ⟨"b"⟩ = .ok ["b"] := by decide
  rw [linkedDocument_opens, List.forall_mem_cons, List.forall_mem_singleton]
  exact ⟨(Workspace.opener_of_file a rfl).symm, (Workspace.opener_of_file b rfl).symm⟩

theorem linkedDocument_alike :
    processText oneLineFiles [fileRule.toRule, regionRule.toRule] ⟨"d"⟩ twoBlocks =
      processText linkedDocument.opener [fileRule.toRule, regionRule.toRule] ⟨"d"⟩ twoBlocks :=
  local_processText _ _ _ oneLineFiles linkedDocument.opener linkedDocument_agrees

theorem linkedDocument_renders :
    Renders linkedDocument onlyTarget Rule.defaults [⟨⟨"d"⟩, twoBlocks, twoBlocksFilled⟩] where
  configured := by
    have absent : settingsFile? linkedDocument onlyTarget = none := by decide
    refine ⟨none, ?_, rfl⟩
    rw [loadSettings_eq, absent]
  collected := by decide
  nonempty := List.cons_ne_nil _ _
  rendered := by
    have located : linkedDocument.locate ⟨"d"⟩ = .ok ["e"] := by decide
    rw [List.forall_mem_singleton, defaults_eq]
    refine render_eq_ok.mpr ⟨rfl, ?_, ?_⟩
    · exact readWhole_eq_ok.mpr ⟨_, _, 420, located, rfl, Stream.decode_ofText twoBlocks⟩
    · show (processText linkedDocument.opener _ _ _).outcome = _
      rw [← linkedDocument_alike]
      exact twoBlocks_runs

theorem linkedDocument_settling :
    Settling linkedDocument onlyTarget Rule.defaults [⟨⟨"d"⟩, twoBlocks, twoBlocksFilled⟩] where
  distinct := List.pairwise_singleton _ _
  settings := by
    have absent : settingsFile? linkedDocument onlyTarget = none := by decide
    intro path found
    rw [absent] at found
    cases found
  embeds := by
    rw [List.forall_mem_singleton, defaults_eq, ← linkedDocument_alike, linkedDocument_opens]
    simp only [List.forall_mem_cons, List.not_mem_nil, false_implies, implies_true, and_true]
    decide
  repeatable := by
    intro first second rules
    rw [defaults_eq] at rules
    obtain rfl : fileRule = first := toRule_injective (List.cons.inj rules).1
    obtain rfl : regionRule = second :=
      toRule_injective (List.cons.inj (List.cons.inj rules).2).1
    rw [List.forall_mem_singleton]
    exact twoBlocks_repeatable.of_agree twoBlocks_runs linkedDocument_agrees

theorem linkedDocument_checked :
    (run linkedDocument onlyTarget.replacing).code = 0 ∧
    (run (afterReplacing linkedDocument onlyTarget) onlyTarget.checking).code = 0 ∧
    (run (afterReplacing linkedDocument onlyTarget) onlyTarget.replacing).code = 0 ∧
    afterReplacing (afterReplacing linkedDocument onlyTarget) onlyTarget =
      afterReplacing linkedDocument onlyTarget := by
  have exits : (run linkedDocument onlyTarget.replacing).code = 0 := by
    rw [linkedDocument_renders.run_replacing]
    rfl
  refine ⟨exits, check_after_replace linkedDocument onlyTarget exits ?_⟩
  intro rules documents configured replaced
  rw [linkedDocument_renders.run_replacing] at replaced
  cases replaced
  rw [configured.unique linkedDocument_renders.configured]
  exact linkedDocument_settling

end Command

end Transclude
