import Transclude.Pipeline
import Transclude.Proofs.BlockRenewal

/-!
Rules that embed files or regions of files. Such a rule succeeds exactly when all blocks of the
document are closed and can be filled, and then it rewrites each block and leaves the nodes outside
of blocks as they are.
-/

namespace Transclude

namespace Embedding

variable {Target : Type} (embedding : Embedding Target)

/-- How many nodes a block with the given parameter keeps at either end. -/
def budget (parameter : String) : Nat :=
  match (embedding.request parameter).outcome with
  | .ok (_, skip) => skip.getD embedding.defaultSkip
  | .error _ => embedding.defaultSkip

/-- The text that is put into a block with the given parameter, if there is one. -/
def text? (parameter : String) : Option String :=
  match (embedding.request parameter).outcome with
  | .ok (target, _) => (embedding.load target).outcome.toOption.map endLine
  | .error _ => none

def text (parameter : String) : String := (embedding.text? parameter).getD ""

/-- What a part becomes: a block is rewritten within its budget, any other part stays. -/
def renewal : Piece → List String
  | .block start parameter body stop =>
    renewed (embedding.budget parameter) start (embedding.text parameter) body stop
  | other => other.nodes

/-- A part that can be brought up to date. -/
def Ready : Piece → Prop
  | .plain _ => True
  | .block _ parameter _ _ => (embedding.text? parameter).isSome
  | .unclosed _ _ _ => False

theorem text?_eq_some {parameter content : String} :
    embedding.text? parameter = some content ↔
      ∃ target skip loaded, (embedding.request parameter).outcome = .ok (target, skip) ∧
        (embedding.load target).outcome = .ok loaded ∧ content = endLine loaded := by
  unfold text?
  cases (embedding.request parameter).outcome with
  | error failure => simp
  | ok asked =>
    obtain ⟨target, skip⟩ := asked
    cases found : (embedding.load target).outcome with
    | error failure => simp [found, Except.toOption]
    | ok loaded => simp [found, Except.toOption, eq_comm]

/-- One part is brought up to date exactly when it is ready. -/
theorem renew_eq_ok {document : Path} {line : Nat} {piece : Piece} {output : List String} :
    (embedding.renew document line piece).outcome = .ok output ↔
      embedding.Ready piece ∧ output = embedding.renewal piece := by
  cases piece with
  | plain node => simp [renew, Ready, renewal, Piece.nodes, eq_comm]
  | unclosed start parameter body =>
    simp [renew, Ready, Run.bind_eq_ok]
  | block start parameter body stop =>
    simp only [renew, Run.bind_eq_ok, Run.outcome_pure, Except.ok.injEq, Ready, renewal,
      Option.isSome_iff_exists, text?_eq_some]
    constructor
    · rintro ⟨⟨target, skip⟩, asked, loaded, found, rfl⟩
      refine ⟨⟨_, target, skip, loaded, asked, found, rfl⟩, ?_⟩
      simp [budget, text, text?, asked, found, Except.toOption]
    · rintro ⟨⟨content, target, skip, loaded, asked, found, rfl⟩, rfl⟩
      refine ⟨(target, skip), asked, loaded, found, ?_⟩
      simp [budget, text, text?, asked, found, Except.toOption]

theorem renewAll_eq_ok {document : Path} {line : Nat} {cut : List Piece} {output : List String} :
    (embedding.renewAll document line cut).outcome = .ok output ↔
      (∀ piece ∈ cut, embedding.Ready piece) ∧ output = cut.flatMap embedding.renewal := by
  induction cut generalizing line output with
  | nil => simp [renewAll, eq_comm]
  | cons piece rest ih =>
    simp only [renewAll, Run.bind_eq_ok, renew_eq_ok, ih, Run.outcome_pure, Except.ok.injEq,
      List.forall_mem_cons, List.flatMap_cons]
    constructor
    · rintro ⟨_, ⟨ready, rfl⟩, _, ⟨others, rfl⟩, rfl⟩
      exact ⟨⟨ready, others⟩, rfl⟩
    · rintro ⟨⟨ready, others⟩, rfl⟩
      exact ⟨_, ⟨ready, rfl⟩, _, ⟨others, rfl⟩, rfl⟩

/-- All blocks of a document are brought up to date exactly when all of its parts are ready. -/
theorem embed_eq_ok {document : Path} {nodes output : List String} :
    (embedding.embed document nodes).outcome = .ok output ↔
      (∀ piece ∈ embedding.markers.pieces nodes, embedding.Ready piece) ∧
        output = (embedding.markers.pieces nodes).flatMap embedding.renewal := by
  rw [embed_eq_renewAll, renewAll_eq_ok]

end Embedding

theorem outcome_decodeParameter {α : Type} (directive : Directive)
    (decode : String → Except Parameter.Fault α) (raw : String) :
    (decodeParameter directive decode raw).outcome =
      (decode raw).mapError (Failure.malformed directive raw) := by
  unfold decodeParameter
  by_cases plain : Parameter.isRaw raw = true
  · rw [if_pos plain, Run.outcome_note_bind]
    cases decode raw <;> rfl
  · rw [if_neg plain]
    cases decode raw <;> rfl

theorem opened_decodeParameter {α : Type} (directive : Directive)
    (decode : String → Except Parameter.Fault α) (raw : String) :
    (decodeParameter directive decode raw).opened = [] := by
  unfold decodeParameter
  by_cases plain : Parameter.isRaw raw = true
  · rw [if_pos plain]
    cases decode raw <;> rfl
  · rw [if_neg plain]
    cases decode raw <;> rfl

/-- What the blocks of an embedding rule ask for. -/
inductive EmbedKind where
  | file
  | region
  deriving DecidableEq, Repr, Inhabited

namespace EmbedKind

def directive : EmbedKind → Directive
  | file => .mapfile
  | region => .maprange

abbrev Target : EmbedKind → Type
  | file => Path
  | region => Path × String

/-- What the parameter of a block in a document asks for, and how many nodes the block keeps. -/
def decode (document : Path) :
    (kind : EmbedKind) → String → Except Parameter.Fault (kind.Target × Option Nat)
  | file, raw =>
    (Parameter.FileTarget.decode raw).map fun asked => (document.resolve asked.file, asked.skip)
  | region, raw =>
    (Parameter.RegionTarget.decode raw).map fun asked =>
      ((document.resolve asked.file, asked.name), asked.skip)

def request (document : Path) : (kind : EmbedKind) → String → Run (kind.Target × Option Nat)
  | file => requestFile document
  | region => requestRegion document

/-- Asking for a target fails only where the parameter cannot be decoded. -/
theorem outcome_request (document : Path) (kind : EmbedKind) (raw : String) :
    (kind.request document raw).outcome =
      (kind.decode document raw).mapError (Failure.malformed kind.directive raw) := by
  cases kind with
  | file =>
    rw [request, requestFile, Run.outcome_bind, outcome_decodeParameter, decode]
    cases Parameter.FileTarget.decode raw <;> rfl
  | region =>
    rw [request, requestRegion, Run.outcome_bind, outcome_decodeParameter, decode]
    cases Parameter.RegionTarget.decode raw <;> rfl

theorem opened_request (document : Path) (kind : EmbedKind) (raw : String) :
    (kind.request document raw).opened = [] := by
  cases kind with
  | file =>
    rw [request, requestFile, Run.opened_bind_of_silent (fun _ => rfl), opened_decodeParameter]
  | region =>
    rw [request, requestRegion, Run.opened_bind_of_silent (fun _ => rfl), opened_decodeParameter]

def load (opener : Opener) (inner : List Rule) : (kind : EmbedKind) → kind.Target → Run String
  | file => loadFile opener inner (Rule.applyAll opener inner)
  | region => loadRegion opener (Rule.applyAll opener inner)

end EmbedKind

/-- A rule that embeds files or regions of files. -/
structure EmbedRule where
  kind : EmbedKind
  markers : Markers
  defaultSkip : Nat
  inner : List Rule

namespace EmbedRule

def toRule : EmbedRule → Rule
  | ⟨.file, markers, defaultSkip, inner⟩ => .mapfile markers defaultSkip inner
  | ⟨.region, markers, defaultSkip, inner⟩ => .maprange markers defaultSkip inner

/-- What a rule does with the blocks of a document. -/
def embedding (rule : EmbedRule) (opener : Opener) (document : Path) :
    Embedding rule.kind.Target where
  directive := rule.kind.directive
  markers := rule.markers
  defaultSkip := rule.defaultSkip
  request := rule.kind.request document
  load := rule.kind.load opener rule.inner

theorem apply_toRule (rule : EmbedRule) (opener : Opener) (document : Path) (nodes : List String) :
    rule.toRule.apply opener document nodes =
      Run.within (.rule rule.kind.directive.name)
        ((rule.embedding opener document).embed document nodes) := by
  obtain ⟨kind, markers, defaultSkip, inner⟩ := rule
  cases kind with
  | file => simp only [toRule, Rule.apply]; rfl
  | region => simp only [toRule, Rule.apply]; rfl

/-- An embedding rule brings the parts of a document up to date. -/
theorem outcome_apply (rule : EmbedRule) (opener : Opener) (document : Path)
    (nodes : List String) :
    (rule.toRule.apply opener document nodes).outcome =
      ((rule.embedding opener document).renewAll document 1 (rule.markers.pieces nodes)).outcome := by
  rw [apply_toRule, Run.outcome_within, Embedding.embed_eq_renewAll]
  rfl

/-- The parameter of a block in a document can be decoded. -/
def Decodes (rule : EmbedRule) (document : Path) (parameter : String) : Prop :=
  ∃ asked, rule.kind.decode document parameter = .ok asked

/-- The target that a parameter asks for can be loaded. -/
def Loads (rule : EmbedRule) (opener : Opener) (document : Path) (parameter : String) : Prop :=
  ∃ target skip content, rule.kind.decode document parameter = .ok (target, skip) ∧
    (rule.kind.load opener rule.inner target).outcome = .ok content

theorem request_eq_ok {rule : EmbedRule} {opener : Opener} {document : Path} {parameter : String}
    {asked : rule.kind.Target × Option Nat} :
    ((rule.embedding opener document).request parameter).outcome = .ok asked ↔
      rule.kind.decode document parameter = .ok asked := by
  change (rule.kind.request document parameter).outcome = .ok asked ↔ _
  rw [EmbedKind.outcome_request]
  cases rule.kind.decode document parameter with
  | error fault => simp [Except.mapError]
  | ok asked => simp [Except.mapError]

theorem text?_isSome_iff {rule : EmbedRule} {opener : Opener} {document : Path}
    {parameter : String} :
    ((rule.embedding opener document).text? parameter).isSome ↔
      rule.Loads opener document parameter := by
  simp only [Option.isSome_iff_exists, Embedding.text?_eq_some, request_eq_ok, Loads]
  constructor
  · rintro ⟨_, target, skip, content, asked, found, -⟩
    exact ⟨target, skip, content, asked, found⟩
  · rintro ⟨target, skip, content, asked, found⟩
    exact ⟨_, target, skip, content, asked, found, rfl⟩

theorem ready_iff {rule : EmbedRule} {opener : Opener} {document : Path} {piece : Piece} :
    (rule.embedding opener document).Ready piece ↔
      piece.IsClosed ∧
        ∀ parameter, piece.parameter? = some parameter → rule.Loads opener document parameter := by
  cases piece with
  | plain node => simp [Embedding.Ready, Piece.IsClosed, Piece.parameter?]
  | block start parameter body stop =>
    simp [Embedding.Ready, Piece.IsClosed, Piece.parameter?, text?_isSome_iff]
  | unclosed start parameter body => simp [Embedding.Ready, Piece.IsClosed]

theorem apply_eq_ok {rule : EmbedRule} {opener : Opener} {document : Path}
    {nodes output : List String} :
    (rule.toRule.apply opener document nodes).outcome = .ok output ↔
      (∀ piece ∈ rule.markers.pieces nodes, (rule.embedding opener document).Ready piece) ∧
        output = (rule.markers.pieces nodes).flatMap (rule.embedding opener document).renewal := by
  rw [apply_toRule, Run.outcome_within, Embedding.embed_eq_ok]
  rfl

/-- An embedding rule succeeds exactly when every parameter decodes, every block is closed and every
target loads. Then the nodes outside of blocks are kept in order, and each block is rewritten. -/
theorem apply_ok_iff_every_block (rule : EmbedRule) (opener : Opener) (document : Path)
    (nodes : List String) :
    ((∃ output, (rule.toRule.apply opener document nodes).outcome = .ok output) ↔
      (∀ piece ∈ rule.markers.pieces nodes, ∀ parameter, piece.parameter? = some parameter →
        rule.Decodes document parameter) ∧
      (∀ piece ∈ rule.markers.pieces nodes, piece.IsClosed) ∧
      ∀ piece ∈ rule.markers.pieces nodes, ∀ parameter, piece.parameter? = some parameter →
        rule.Loads opener document parameter) ∧
    ∀ output, (rule.toRule.apply opener document nodes).outcome = .ok output →
      output = (rule.markers.pieces nodes).flatMap (rule.embedding opener document).renewal := by
  refine ⟨?_, fun output went => (apply_eq_ok.mp went).2⟩
  simp only [apply_eq_ok, exists_and_left, exists_eq, and_true, ready_iff]
  constructor
  · intro ready
    refine ⟨fun piece member parameter opens => ?_, fun piece member => (ready piece member).1,
      fun piece member => (ready piece member).2⟩
    obtain ⟨target, skip, content, asked, found⟩ := (ready piece member).2 parameter opens
    exact ⟨(target, skip), asked⟩
  · rintro ⟨-, closed, loads⟩ piece member
    exact ⟨closed piece member, loads piece member⟩

end EmbedRule

end Transclude
