import Transclude.Proofs.FirstFault
import Transclude.Proofs.RulePair

/-!
A run sees of the files only those that it opens. Where other files agree with the first ones on all
paths that a run opens, the run takes the same course over them: it opens the same paths in the same
order and ends alike, however deep the rules nest.
-/

namespace Transclude

namespace Run

variable {α β : Type}

/-- A run that depends on the files only by way of the paths that it opens. -/
def Local (run : Opener → Run α) : Prop :=
  ∀ files others, (∀ path ∈ (run files).opened, files path = others path) →
    run files = run others

theorem Local.const (run : Run α) : Local fun _ => run := fun _ _ _ => rfl

theorem Local.within {run : Opener → Run α} (inner : Local run) (span : Span) :
    Local fun opener => Run.within span (run opener) := by
  intro files others agree
  rw [opened_within] at agree
  show Run.within span (run files) = Run.within span (run others)
  rw [inner files others agree]

/-- What comes first determines what is opened later. -/
theorem Local.bind {run : Opener → Run α} {next : Opener → α → Run β} (first : Local run)
    (later : ∀ value, Local fun opener => next opener value) :
    Local fun opener => run opener >>= next opener := by
  intro files others agree
  cases found : (run files).outcome with
  | error failure =>
    rw [opened_bind_of_error found] at agree
    have same := first files others agree
    show run files >>= next files = run others >>= next others
    rw [← same, bind_of_error found, bind_of_error found]
  | ok value =>
    -- what is opened from here on depends on the value, which is the same over both
    rw [opened_bind_of_ok found, List.forall_mem_append] at agree
    have same := first files others agree.1
    have rest : next files value = next others value := later value files others agree.2
    show run files >>= next files = run others >>= next others
    rw [← same, bind_of_ok found, bind_of_ok found, rest]

end Run

theorem opened_access (opener : Opener) (path : Path) : (access opener path).opened = [path] := rfl

theorem local_access (path : Path) : Run.Local fun opener => access opener path := by
  intro files others agree
  rw [opened_access, List.forall_mem_singleton] at agree
  show access files path = access others path
  unfold access
  rw [agree]

theorem local_readWhole (path : Path) : Run.Local fun opener => readWhole opener path :=
  (local_access path).bind fun _ => .const _

theorem local_processWith {transform : Opener → Transform}
    (inner : ∀ path nodes, Run.Local fun opener => transform opener path nodes) (path : Path) :
    Run.Local fun opener => processWith opener (transform opener) path := by
  refine Run.Local.within ?_ _
  refine (Run.Local.const _).bind fun _ => ?_
  refine (local_access path).bind fun stream => ?_
  refine (Run.Local.const _).bind fun nodes => ?_
  exact ((inner path nodes).within _).bind fun _ => .const _

namespace EmbedRule

/-- Loading a target depends on the files that are opened for it, if the rules for what is loaded do
so. -/
theorem local_load {inner : List Rule}
    (rules : ∀ path nodes, Run.Local fun opener => Rule.applyAll opener inner path nodes)
    (kind : EmbedKind) (target : kind.Target) :
    Run.Local fun opener => kind.load opener inner target := by
  cases kind with
  | file =>
    show Run.Local fun opener => loadFile opener inner (Rule.applyAll opener inner) target
    unfold loadFile
    by_cases plain : inner.isEmpty = true
    · simp only [plain, if_true]
      exact local_readWhole target
    · simp only [plain]
      exact local_processWith rules target
  | region =>
    have filtered : ∀ path nodes, Run.Local fun opener =>
        filterRegion (.named target.2) path nodes >>= fun nodes =>
          Rule.applyAll opener inner path nodes := by
      intro path nodes
      exact (Run.Local.const _).bind fun nodes => rules path nodes
    exact local_processWith filtered target.1

/-- Bringing the parts of a document up to date depends on the files that are opened for them. -/
theorem local_renewAll (rule : EmbedRule) (document : Path)
    (load : ∀ target, Run.Local fun opener => rule.kind.load opener rule.inner target)
    (line : Nat) (cut : List Piece) :
    Run.Local fun opener => (rule.embedding opener document).renewAll document line cut := by
  induction cut generalizing line with
  | nil => exact .const _
  | cons piece rest ih =>
    refine Run.Local.bind ?_ fun nodes => (ih _).bind fun _ => .const _
    cases piece with
    | plain node => exact .const _
    | unclosed start parameter body =>
      show Run.Local fun _ => rule.kind.request document parameter >>= fun _ =>
        Run.fail (.unterminated rule.kind.directive document line)
      exact .const _
    | block start parameter body stop =>
      show Run.Local fun opener => rule.kind.request document parameter >>= fun asked =>
        rule.kind.load opener rule.inner asked.1 >>= fun text =>
          pure (renewed (asked.2.getD rule.defaultSkip) start (endLine text) body stop)
      exact (Run.Local.const _).bind fun asked => (load asked.1).bind fun _ => .const _

theorem local_apply (rule : EmbedRule)
    (inner : ∀ path nodes, Run.Local fun opener => Rule.applyAll opener rule.inner path nodes)
    (document : Path) (nodes : List String) :
    Run.Local fun opener => rule.toRule.apply opener document nodes := by
  simp only [apply_toRule, Embedding.embed_eq_renewAll]
  show Run.Local fun opener => Run.within (.rule rule.kind.directive.name)
    ((rule.embedding opener document).renewAll document 1 (rule.markers.pieces nodes))
  exact (rule.local_renewAll document (local_load inner rule.kind) 1 _).within _

end EmbedRule

mutual

/-- Applying a rule depends on the files that it opens, at whatever depth. -/
theorem Rule.local_apply : ∀ (rule : Rule) (document : Path) (nodes : List String),
    Run.Local fun opener => Rule.apply opener rule document nodes
  | .mapfile markers defaultSkip inner, document, nodes =>
    EmbedRule.local_apply ⟨.file, markers, defaultSkip, inner⟩ (Rule.local_applyAll inner)
      document nodes
  | .maprange markers defaultSkip inner, document, nodes =>
    EmbedRule.local_apply ⟨.region, markers, defaultSkip, inner⟩ (Rule.local_applyAll inner)
      document nodes
  | .range filter, document, nodes => by
    simp only [Rule.apply]
    exact .const _
  | .dedent lead, document, nodes => by
    simp only [Rule.apply]
    exact .const _
  | .reindent width, document, nodes => by
    simp only [Rule.apply]
    exact .const _

theorem Rule.local_applyAll : ∀ (rules : List Rule) (document : Path) (nodes : List String),
    Run.Local fun opener => Rule.applyAll opener rules document nodes
  | [], document, nodes => by
    simp only [Rule.applyAll]
    exact .const _
  | rule :: rest, document, nodes => by
    simp only [Rule.applyAll]
    exact (Rule.local_apply rule document nodes).bind fun later =>
      Rule.local_applyAll rest document later

end

/-- Rendering a text depends on the files that are opened for it. -/
theorem local_processText (rules : List Rule) (path : Path) (text : String) :
    Run.Local fun opener => processText opener rules path text := by
  refine Run.Local.within ?_ _
  refine (Run.Local.const _).bind fun nodes => ?_
  exact ((Rule.local_applyAll rules path nodes).within _).bind fun _ => .const _

/-! What a run opens that goes well. -/

namespace EmbedRule

variable {rule : EmbedRule} {opener : Opener} {document : Path}

theorem opened_renewAll_of_ok {line : Nat} {cut : List Piece} {output : List String}
    (went : ((rule.embedding opener document).renewAll document line cut).outcome = .ok output) :
    ((rule.embedding opener document).renewAll document line cut).opened =
      cut.flatMap (rule.opens opener document) := by
  induction cut generalizing line output with
  | nil => rfl
  | cons piece rest ih =>
    rw [Embedding.renewAll, Run.bind_eq_ok] at went
    obtain ⟨nodes, first, went⟩ := went
    obtain ⟨others, later, -⟩ := Run.bind_eq_ok.mp went
    rw [Embedding.renewAll, Run.opened_bind_of_ok first, opened_renew,
      Run.opened_bind_of_silent (fun _ => rfl), ih later, List.flatMap_cons]

/-- A rule that goes well opens what the targets of the blocks open, in order. -/
theorem opened_apply_of_ok {nodes output : List String}
    (went : (rule.toRule.apply opener document nodes).outcome = .ok output) :
    (rule.toRule.apply opener document nodes).opened =
      (rule.markers.pieces nodes).flatMap (rule.opens opener document) := by
  rw [outcome_apply] at went
  rw [apply_toRule, Run.opened_within, Embedding.embed_eq_renewAll]
  exact opened_renewAll_of_ok went

variable {others : Opener}

/-- Files that agree on what is opened for a block have the same text for it. -/
theorem text_of_agree {start parameter stop : String} {body : List String}
    (agree : ∀ path ∈ rule.opens opener document (.block start parameter body stop),
      opener path = others path) :
    (rule.embedding opener document).text parameter =
      (rule.embedding others document).text parameter := by
  rw [opens] at agree
  have same : ∀ target skip, rule.kind.decode document parameter = .ok (target, skip) →
      rule.kind.load opener rule.inner target = rule.kind.load others rule.inner target := by
    intro target skip decoded
    rw [decoded] at agree
    exact local_load (Rule.local_applyAll rule.inner) rule.kind target opener others agree
  have text : (rule.embedding opener document).text? parameter =
      (rule.embedding others document).text? parameter := by
    ext content
    simp only [Embedding.text?_eq_some, request_eq_ok]
    refine exists_congr fun target => exists_congr fun skip => exists_congr fun loaded =>
      and_congr_right fun decoded => ?_
    show (rule.kind.load opener rule.inner target).outcome = _ ∧ _ ↔ _
    rw [same target skip decoded]
    rfl
  rw [Embedding.text, Embedding.text, text]

end EmbedRule

/-! Two rules that are run again over other files. -/

theorem opened_parse (path : Path) (stream : Stream) : (parse path stream).opened = [] := rfl

/-- Rendering a text opens what its rules open. -/
theorem opened_processText (opener : Opener) (rules : List Rule) (path : Path) (text : String) :
    (processText opener rules path text).opened =
      (Rule.applyAll opener rules path (textLines text)).opened := by
  have read : (parse path (.ofText text)).outcome = .ok (textLines text) := by
    rw [parse, Stream.lines_ofText]
    rfl
  rw [processText, Run.opened_within, Run.opened_bind_of_ok read, opened_parse, List.nil_append,
    Run.opened_bind_of_silent fun _ => rfl, Run.opened_within]

namespace EmbedRule

variable {first second : EmbedRule} {files others : Opener} {document : Path}
  {content output : String}

/-- What two rules open that go well: what the blocks open that the first sees, and then what those
open that the second sees afterwards. -/
theorem opened_processText_pair
    (went : (processText files [first.toRule, second.toRule] document content).outcome =
      .ok output) :
    ∃ nodes, (first.toRule.apply files document (textLines content)).outcome = .ok nodes ∧
      (∀ piece ∈ second.markers.pieces nodes, (second.embedding files document).Ready piece) ∧
      (processText files [first.toRule, second.toRule] document content).opened =
        (first.markers.pieces (textLines content)).flatMap (first.opens files document) ++
          (second.markers.pieces nodes).flatMap (second.opens files document) := by
  obtain ⟨result, went, -⟩ := processText_eq_ok.mp went
  rw [applyAll_pair] at went
  obtain ⟨nodes, early, late⟩ := Run.bind_eq_ok.mp went
  refine ⟨nodes, early, (apply_eq_ok.mp late).1, ?_⟩
  rw [opened_processText, applyAll_pair, Run.opened_bind_of_ok early, opened_apply_of_ok early,
    opened_apply_of_ok late]

theorem budget_embedding (rule : EmbedRule) (parameter : String) :
    (rule.embedding files document).budget parameter =
      (rule.embedding others document).budget parameter := by
  unfold Embedding.budget
  rfl

/-- A block of a document is in the same state over files that agree on what is opened for it. -/
theorem inert_of_agree {rule : EmbedRule} {cut : List Piece}
    (ready : ∀ piece ∈ cut, (rule.embedding files document).Ready piece)
    (agree : ∀ path ∈ cut.flatMap (rule.opens files document), files path = others path)
    {parameter : String} (member : parameter ∈ cut.filterMap Piece.parameter?)
    (inert : (rule.embedding files document).Inert first.markers second.markers parameter) :
    (rule.embedding others document).Inert first.markers second.markers parameter := by
  obtain ⟨piece, here, opens⟩ := List.mem_filterMap.mp member
  cases piece with
  | plain node => cases opens
  | unclosed start found body => exact (ready _ here).elim
  | block start found body stop =>
    cases opens
    have same := text_of_agree fun path inside =>
      agree path (List.mem_flatMap.mpr ⟨_, here, inside⟩)
    obtain ⟨budget, silent⟩ := inert
    rw [same] at silent
    rw [budget_embedding] at budget
    exact ⟨budget, silent⟩

/-- That two rules can be run again depends on the files that the run opens. -/
theorem Repeatable.of_agree
    (went : (processText files [first.toRule, second.toRule] document content).outcome =
      .ok output)
    (agree : ∀ path ∈ (processText files [first.toRule, second.toRule] document content).opened,
      files path = others path)
    (repeatable : Repeatable first second files document content) :
    Repeatable first second others document content := by
  have ready := (processText_pair.mp went).1
  obtain ⟨nodes, early, later_ready, opened⟩ := opened_processText_pair went
  rw [opened, List.forall_mem_append] at agree
  -- the first rule leaves the same nodes over both, so the second one sees the same blocks
  have same : first.toRule.apply files document (textLines content) =
      first.toRule.apply others document (textLines content) := by
    apply Rule.local_apply first.toRule document (textLines content) files others
    show ∀ path ∈ (first.toRule.apply files document (textLines content)).opened, _
    rw [opened_apply_of_ok early]
    exact agree.1
  refine ⟨repeatable.single, ?_, ?_⟩
  · intro parameter member
    exact inert_of_agree ready agree.1 member (repeatable.inert parameter member)
  · intro later went parameter member
    rw [← same, early] at went
    cases went
    exact inert_of_agree later_ready agree.2 member
      (repeatable.later_inert nodes early parameter member)

/-- Groups that were brought up to date are found again, each on its own. -/
theorem sound_reread_groups {groups : List Group}
    (sound : ∀ group ∈ groups,
      group.Sound (first.embedding files document) (second.embedding files document))
    (inert : ∀ group ∈ groups,
      group.Inert (first.embedding files document) (second.embedding files document)) :
    ∀ group ∈ groups.map
        (Group.reread (first.embedding files document) (second.embedding files document)),
      group.Sound (first.embedding files document) (second.embedding files document) := by
  intro group member
  obtain ⟨before, here, rfl⟩ := List.mem_map.mp member
  exact (sound before here).reread (inert before here)

/-- Two rules that can be run again on a document leave what they made of it as it is, also over
other files that agree on what they opened. -/
theorem processText_again_of_agree
    (went : (processText files [first.toRule, second.toRule] document content).outcome =
      .ok output)
    (agree : ∀ path ∈ (processText files [first.toRule, second.toRule] document content).opened,
      files path = others path)
    (repeatable : Repeatable first second files document content) :
    (processText others [first.toRule, second.toRule] document output).outcome = .ok output := by
  have same : processText files [first.toRule, second.toRule] document content =
      processText others [first.toRule, second.toRule] document content :=
    local_processText _ document content files others agree
  have repeatable := repeatable.of_agree went agree
  rw [same] at went
  obtain ⟨groups, sound, inert, lines, rfl⟩ := exists_sound_groups went repeatable
  rw [processText_of_sound (sound_reread_groups sound inert)
    (Group.textLines_groups sound inert lines)]
  simp only [List.flatMap_assoc, List.flatMap_map]
  rw [List.flatMap_congr fun group member => Group.flatMap_renewal_reread (inert group member)]

end EmbedRule

end Transclude
