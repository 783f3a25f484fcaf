import Transclude.Proofs.OpenedFiles

/-!
What a run opens, read off the document. An embedding rule whose nested rules do not embed opens one
file for each closed block, the one that the block names, in the order of the blocks and up to the
first failure.
-/

namespace Transclude

/-- Rules that embed files or regions of files. -/
def Rule.Embeds : Rule → Prop
  | .mapfile _ _ _ | .maprange _ _ _ => True
  | _ => False

namespace RegionFilter

theorem opened_step (filter : RegionFilter) (line : Nat) (state : RegionScan) (node : String) :
    (filter.step line state node).opened = [] := by
  cases state with
  | inside opened =>
    rw [step]
    split <;> rfl
  | outside =>
    rw [step]
    split
    · rfl
    · exact (Run.opened_bind_of_silent (fun _ => rfl) _).trans (opened_decodeParameter _ _ _)

theorem opened_scan (filter : RegionFilter) (document : Path) (line : Nat) (state : RegionScan)
    (nodes : List String) : (filter.scan document line state nodes).opened = [] := by
  induction nodes generalizing line state with
  | nil => cases state <;> rfl
  | cons node rest ih =>
    rw [scan, Run.opened_bind_of_silent fun after => ?_, opened_step]
    rw [Run.opened_bind_of_silent (fun _ => rfl), ih]

end RegionFilter

theorem Rule.opened_apply {rule : Rule} (plain : ¬rule.Embeds) (opener : Opener) (document : Path)
    (nodes : List String) : (rule.apply opener document nodes).opened = [] := by
  cases rule with
  | mapfile _ _ _ | maprange _ _ _ => exact absurd trivial plain
  | range filter =>
    rw [Rule.apply, filterRegion, Run.opened_within, RegionFilter.extract,
      RegionFilter.opened_scan]
  | dedent lead =>
    rw [Rule.apply]
    rfl
  | reindent width =>
    rw [Rule.apply, rescaleIndent]
    dsimp only
    rw [Run.opened_within]
    split <;> split <;> rfl

theorem Rule.opened_applyAll {rules : List Rule} (plain : ∀ rule ∈ rules, ¬rule.Embeds)
    (opener : Opener) (document : Path) (nodes : List String) :
    (Rule.applyAll opener rules document nodes).opened = [] := by
  induction rules generalizing nodes with
  | nil =>
    rw [Rule.applyAll]
    rfl
  | cons rule rest ih =>
    rw [List.forall_mem_cons] at plain
    rw [Rule.applyAll, Run.opened_bind_of_silent (ih plain.2), Rule.opened_apply plain.1]

/-- A nested run whose rules open nothing opens its file. -/
theorem opened_processWith {opener : Opener} {transform : Transform} (path : Path)
    (silent : ∀ nodes, (transform path nodes).opened = []) :
    (processWith opener transform path).opened = [path] := by
  have reading : ∀ stream, (parse path stream >>= fun nodes =>
      Run.within .applyRules (transform path nodes) >>= fun nodes => pure (render nodes)).opened =
        [] := by
    intro stream
    rw [Run.opened_bind_of_silent, opened_parse]
    intro nodes
    rw [Run.opened_bind_of_silent (fun _ => rfl), Run.opened_within, silent]
  rw [processWith, Run.opened_within, Run.opened_bind_of_ok rfl,
    Run.opened_bind_of_silent reading, opened_access]
  rfl

namespace EmbedKind

def source : (kind : EmbedKind) → kind.Target → Path
  | .file, path => path
  | .region, (path, _) => path

/-- Getting the text of a block opens the file of its target once. -/
theorem opened_load {inner : List Rule} (plain : ∀ rule ∈ inner, ¬rule.Embeds) (opener : Opener)
    (kind : EmbedKind) (target : kind.Target) :
    (kind.load opener inner target).opened = [kind.source target] := by
  have silent := Rule.opened_applyAll plain opener
  cases kind with
  | file =>
    rw [load, loadFile]
    split
    · rw [readWhole, Run.opened_bind_of_silent (fun _ => rfl), opened_access]
      rfl
    · exact opened_processWith target (silent target)
  | region =>
    rw [load, loadRegion, opened_processWith target.1]
    · rfl
    intro nodes
    rw [Run.opened_bind_of_silent (silent target.1), filterRegion, Run.opened_within,
      RegionFilter.extract, RegionFilter.opened_scan]

end EmbedKind

namespace EmbedRule

variable {rule : EmbedRule} {opener : Opener} {document : Path}

/-- The file that a closed block names, with the position of its end marker; the first node of the
part has the given line. -/
def closing? (rule : EmbedRule) (document : Path) (line : Nat) : Piece → Option (Nat × Path)
  | .block _ parameter body _ =>
    match rule.kind.decode document parameter with
    | .ok (target, _) => some (line + body.length + 1, rule.kind.source target)
    | .error _ => none
  | _ => none

/-- The files that the closed blocks of some parts name, the first of which begins at the given
line, each with the position of its end marker. -/
def closings (rule : EmbedRule) (document : Path) : Nat → List Piece → List (Nat × Path)
  | _, [] => []
  | line, piece :: rest =>
    (rule.closing? document line piece).toList ++
      rule.closings document (line + piece.nodes.length) rest

theorem opens_eq (plain : ∀ inner ∈ rule.inner, ¬inner.Embeds) (line : Nat) (piece : Piece) :
    rule.opens opener document piece =
      (rule.closing? document line piece).toList.map Prod.snd := by
  cases piece with
  | plain node => rfl
  | unclosed start parameter body => rfl
  | block start parameter body stop =>
    rw [opens, closing?]
    cases rule.kind.decode document parameter with
    | error fault => rfl
    | ok asked => exact EmbedKind.opened_load plain opener rule.kind asked.1

theorem lt_of_mem_closings {line : Nat} {cut : List Piece} {closing : Nat × Path}
    (member : closing ∈ rule.closings document line cut) : line < closing.1 := by
  induction cut generalizing line with
  | nil => cases member
  | cons piece rest ih =>
    rw [closings, List.mem_append, Option.mem_toList] at member
    rcases member with here | later
    · cases piece with
      | plain _ | unclosed _ _ _ => cases here
      | block start parameter body stop =>
        rw [closing?] at here
        split at here
        · cases here
          exact Nat.lt_succ_of_le (Nat.le_add_right _ _)
        · cases here
    · have behind := ih later
      omega

theorem closing_lt_of_mem {line : Nat} {piece : Piece} {closing : Nat × Path}
    (here : rule.closing? document line piece = some closing) :
    closing.1 < line + piece.nodes.length := by
  cases piece with
  | plain _ | unclosed _ _ _ => cases here
  | block start parameter body stop =>
    rw [closing?] at here
    rw [Piece.length_nodes_block]
    split at here
    · cases here
      dsimp only
      omega
    · cases here

/-- What fails in a part shows no sooner than the end marker at which its file is opened. -/
theorem closing_le_of_first {line position : Nat} {piece : Piece} {failure : Failure}
    {closing : Nat × Path}
    (fault : rule.PieceFault opener document line piece position failure)
    (here : rule.closing? document line piece = some closing) : closing.1 ≤ position := by
  cases piece with
  | plain _ | unclosed _ _ _ => cases here
  | block start parameter body stop =>
    rw [closing?] at here
    cases fault with
    | parameter opens broken =>
      cases opens
      rw [broken] at here
      cases here
    | target asked missing =>
      rw [asked] at here
      cases here
      exact Nat.le_refl _

/-- A failure of a part shows before the end markers of the blocks behind it. -/
theorem lt_closing_of_fault {line position : Nat} {piece : Piece} {rest : List Piece}
    {failure : Failure} {closing : Nat × Path} (cuts : rule.markers.Cuts (piece :: rest))
    (fault : rule.PieceFault opener document line piece position failure)
    (member : closing ∈ rule.closings document (line + piece.nodes.length) rest) :
    position < closing.1 := by
  have closed : piece.IsClosed := by
    refine cuts.isClosed fun none => ?_
    rw [none] at member
    cases member
  exact (position_lt_of_pieceFault closed fault).trans (lt_of_mem_closings member)

/-- A document that is brought up to date without a failure opens the files of all its blocks. -/
theorem opened_renewAll_eq_of_ok (plain : ∀ inner ∈ rule.inner, ¬inner.Embeds) {line : Nat}
    {cut : List Piece} {output : List String}
    (went : ((rule.embedding opener document).renewAll document line cut).outcome = .ok output) :
    ((rule.embedding opener document).renewAll document line cut).opened =
      (rule.closings document line cut).map Prod.snd := by
  rw [opened_renewAll_of_ok went]
  clear went
  induction cut generalizing line with
  | nil => rfl
  | cons piece rest ih => rw [List.flatMap_cons, closings, List.map_append, ← ih, ← opens_eq plain]

/-- A failure ends what is opened: the files are those of the blocks that end no later. -/
theorem opened_renewAll_eq_of_first (plain : ∀ inner ∈ rule.inner, ¬inner.Embeds)
    {line position : Nat} {cut : List Piece} (cuts : rule.markers.Cuts cut) {failure : Failure}
    (first : rule.FirstFaultIn opener document line cut position failure) :
    ((rule.embedding opener document).renewAll document line cut).opened =
      ((rule.closings document line cut).filter fun closing => closing.1 ≤ position).map
        Prod.snd := by
  induction cut generalizing line with
  | nil => exact absurd first.1 faultIn_nil
  | cons piece rest ih =>
    have here : ∀ closing ∈ (rule.closing? document line piece).toList,
        closing.1 ≤ position := by
      intro closing member
      rw [Option.mem_toList] at member
      rcases (firstFaultIn_cons cuts).mp first with ⟨inside, -⟩ | ⟨-, behind, -⟩
      · exact closing_le_of_first inside member
      · have before := closing_lt_of_mem member
        have after := le_position_of_faultIn behind
        omega
    rw [closings, List.filter_append, List.filter_eq_self.mpr (by simpa using here), List.map_append,
      ← opens_eq plain, Embedding.renewAll]
    rcases (firstFaultIn_cons cuts).mp first with inside | ⟨sound, behind⟩
    · -- the part fails, and all other blocks end behind it
      have failed := renew_eq_error.mpr ⟨position, inside⟩
      have late : ∀ closing ∈ rule.closings document (line + piece.nodes.length) rest,
          ¬decide (closing.1 ≤ position) = true := by
        intro closing member
        rw [decide_eq_true_iff, not_le]
        exact lt_closing_of_fault cuts inside.1 member
      rw [Run.opened_bind_of_error failed, opened_renew, List.filter_eq_nil_iff.mpr late,
        List.map_nil, List.append_nil]
    · cases result : ((rule.embedding opener document).renew document line piece).outcome with
      | error cause =>
        obtain ⟨early, fault, -⟩ := renew_eq_error.mp result
        exact absurd fault (sound early cause)
      | ok nodes =>
        rw [Run.opened_bind_of_ok result, opened_renew, Run.opened_bind_of_silent (fun _ => rfl),
          ih cuts.tail behind]

/-- A rule by itself opens, and fails, as it does on the lines of the text. -/
theorem opened_processText_single (rule : EmbedRule) (opener : Opener) (document : Path)
    (content : String) :
    (processText opener [rule.toRule] document content).opened =
      ((rule.embedding opener document).renewAll document 1
        (rule.markers.pieces (textLines content))).opened := by
  rw [opened_processText, applyAll_single, apply_toRule, Run.opened_within,
    Embedding.embed_eq_renewAll]
  rfl

theorem processText_single_eq_error {content : String} {failure : Failure} :
    (processText opener [rule.toRule] document content).outcome = .error failure ↔
      ((rule.embedding opener document).renewAll document 1
        (rule.markers.pieces (textLines content))).outcome = .error failure := by
  rw [outcome_processText, applyAll_single, outcome_apply]
  cases ((rule.embedding opener document).renewAll document 1
    (rule.markers.pieces (textLines content))).outcome with
  | error cause => simp [Except.map]
  | ok nodes => simp [Except.map]

end EmbedRule

/-- Over files that agree on what a run opens, the run comes to the same end and opens the same
files in the same order. What a single embedding rule opens whose nested rules do not embed are the
files that the closed blocks name, in order: all of them if nothing fails, and else those of the
blocks that end no later than the first failure shows. -/
theorem sees_only_opened_files :
    (∀ (rules : List Rule) (path : Path) (content : String) (files others : Opener),
      (∀ opened ∈ (processText files rules path content).opened,
        files opened = others opened) →
      (processText others rules path content).outcome =
        (processText files rules path content).outcome ∧
      (processText others rules path content).opened =
        (processText files rules path content).opened) ∧
    ∀ (rule : EmbedRule) (files : Opener) (document : Path) (content : String),
      (∀ inner ∈ rule.inner, ¬inner.Embeds) →
      (∀ output, (processText files [rule.toRule] document content).outcome = .ok output →
        (processText files [rule.toRule] document content).opened =
          (rule.closings document 1 (rule.markers.pieces (textLines content))).map Prod.snd) ∧
      ∀ failure, (processText files [rule.toRule] document content).outcome = .error failure →
        ∃ position, rule.FirstFault files document (textLines content) position failure ∧
          (processText files [rule.toRule] document content).opened =
            ((rule.closings document 1 (rule.markers.pieces (textLines content))).filter
              fun closing => closing.1 ≤ position).map Prod.snd := by
  refine ⟨fun rules path content files others agree => ?_,
    fun rule files document content plain => ⟨fun output went => ?_, fun failure failed => ?_⟩⟩
  · have same : processText files rules path content = processText others rules path content :=
      local_processText rules path content files others agree
    rw [same]
    exact ⟨rfl, rfl⟩
  · obtain ⟨nodes, went, -⟩ := processText_eq_ok.mp went
    rw [applyAll_single, EmbedRule.outcome_apply] at went
    rw [EmbedRule.opened_processText_single, EmbedRule.opened_renewAll_eq_of_ok plain went]
  · have cuts := rule.markers.cuts_pieces (textLines content)
    obtain ⟨position, first⟩ :=
      (EmbedRule.renewAll_eq_error cuts).mp (EmbedRule.processText_single_eq_error.mp failed)
    refine ⟨position, first, ?_⟩
    rw [EmbedRule.opened_processText_single, EmbedRule.opened_renewAll_eq_of_first plain cuts first]

end Transclude
