import Mathlib.Data.Finset.Lattice.Fold
import Mathlib.Order.Lattice.Nat
import Transclude.Proofs.SecondRun

/-!
An embedding rule run over and over on what it wrote. Every run finds the same blocks. A block in
which the two kept ends meet grows with each run by the lines of its text, until there is room for
both; from then on it stays as it is. So the number of runs until nothing changes any more is
bounded by what the blocks keep, whatever the document and the embedded texts are.
-/

namespace Transclude

namespace Embedding

variable {Target : Type} (embedding : Embedding Target)

/-- What stands in a block after a number of runs, line by line. -/
def bodyAfter (parameter : String) (runs : Nat) (body : List String) : List String :=
  (embedding.filled parameter)^[runs] body

/-- A part after a number of runs, as the next one reads it: the markers of a block stay. -/
def pieceAfter (runs : Nat) : Piece → Piece
  | .block start parameter body stop =>
    .block start parameter (embedding.bodyAfter parameter runs body) stop
  | other => other

/-- The most nodes that a block of a document keeps at either end. -/
def largestBudget (nodes : List String) : Nat :=
  (embedding.markers.parameters nodes).toFinset.sup embedding.budget

variable {embedding}

section

variable {parameter : String} {body : List String}

theorem bodyAfter_succ (runs : Nat) :
    embedding.bodyAfter parameter (runs + 1) body =
      embedding.filled parameter (embedding.bodyAfter parameter runs body) :=
  Function.iterate_succ_apply' _ _ _

theorem filled_filled (room : 2 * embedding.budget parameter ≤ body.length) :
    embedding.filled parameter (embedding.filled parameter body) =
      embedding.filled parameter body := by
  rw [filled, (take_filled room).1, keptTail_filled room, ← filled]

/-- A run leaves no more than what is kept at both ends and the text between them. -/
theorem length_bodyAfter_le {runs : Nat} (ran : 1 ≤ runs) :
    (embedding.bodyAfter parameter runs body).length ≤
      2 * embedding.budget parameter + (textLines (embedding.text parameter)).length := by
  obtain ⟨before, rfl⟩ := Nat.exists_eq_add_of_le' ran
  rw [bodyAfter_succ, length_filled]
  omega

/-- With every run a block comes to have at least one line more, until there is room. -/
theorem le_length_bodyAfter (lines : 0 < (textLines (embedding.text parameter)).length)
    (body : List String) (runs : Nat) :
    min (2 * embedding.budget parameter) runs ≤
      (embedding.bodyAfter parameter runs body).length := by
  induction runs with
  | zero => exact (Nat.min_le_right _ _).trans (Nat.zero_le _)
  | succ runs ih =>
    rw [bodyAfter_succ, length_filled]
    omega

/-- With room in it, a block is changed by one more run at most. -/
theorem bodyAfter_of_room {runs : Nat}
    (room : 2 * embedding.budget parameter ≤ (embedding.bodyAfter parameter runs body).length)
    (more : Nat) :
    embedding.bodyAfter parameter (runs + 1 + more) body =
      embedding.bodyAfter parameter (runs + 1) body := by
  induction more with
  | zero => rfl
  | succ more ih => rw [← Nat.add_assoc, bodyAfter_succ, ih, bodyAfter_succ, filled_filled room]

end

theorem pieceAfter_zero (piece : Piece) : embedding.pieceAfter 0 piece = piece := by
  cases piece with
  | plain _ | block _ _ _ _ | unclosed _ _ _ => rfl

theorem pieceAfter_succ (runs : Nat) (piece : Piece) :
    embedding.pieceAfter (runs + 1) piece = embedding.reread (embedding.pieceAfter runs piece) := by
  cases piece with
  | plain _ | unclosed _ _ _ => rfl
  | block start parameter body stop => rw [pieceAfter, bodyAfter_succ]; rfl

theorem parameter?_pieceAfter (runs : Nat) (piece : Piece) :
    (embedding.pieceAfter runs piece).parameter? = piece.parameter? := by
  cases piece with
  | plain _ | block _ _ _ _ | unclosed _ _ _ => rfl

theorem ready_pieceAfter {runs : Nat} {piece : Piece} :
    embedding.Ready (embedding.pieceAfter runs piece) ↔ embedding.Ready piece := by
  cases piece with
  | plain _ | block _ _ _ _ | unclosed _ _ _ => exact Iff.rfl

theorem budget_le_largestBudget {nodes : List String} {parameter : String}
    (opens : parameter ∈ embedding.markers.parameters nodes) :
    embedding.budget parameter ≤ embedding.largestBudget nodes :=
  Finset.le_sup (List.mem_toFinset.mpr opens)

/-- After twice as many runs as a block keeps nodes, there is room in it. -/
theorem roomy_pieceAfter {piece : Piece} {runs : Nat} (ready : embedding.Ready piece)
    (enough : ∀ parameter, piece.parameter? = some parameter →
      2 * embedding.budget parameter ≤ runs) :
    embedding.Roomy (embedding.pieceAfter runs piece) := by
  cases piece with
  | plain _ | unclosed _ _ _ => trivial
  | block start parameter body stop =>
    have grown := le_length_bodyAfter (textLines_length_pos (ended_text ready)) body runs
    rwa [Nat.min_eq_left (enough parameter rfl)] at grown

end Embedding

namespace EmbedRule

variable (rule : EmbedRule) (opener : Opener) (document : Path)

/-- The outcome of a number of runs of a rule, each on what the one before wrote. -/
def runs : Nat → String → Except Failure String
  | 0, content => .ok content
  | count + 1, content =>
    (runs count content).bind fun text => (processText opener [rule.toRule] document text).outcome

/-- No line of a text that is embedded in a document ends a block. -/
def CleanTexts (content : String) : Prop :=
  ∀ parameter ∈ rule.markers.parameters (textLines content),
    ∀ line ∈ textLines ((rule.embedding opener document).text parameter),
      rule.markers.isStop line = false

variable {rule opener document} {content : String}

/-- A run leaves a document in which the next one finds the same blocks. -/
theorem pieces_output
    (ready : ∀ piece ∈ rule.markers.pieces (textLines content),
      (rule.embedding opener document).Ready piece)
    (clean : rule.CleanTexts opener document content) :
    rule.markers.pieces (textLines (render
        ((rule.markers.pieces (textLines content)).flatMap
          (rule.embedding opener document).renewal))) =
      (rule.markers.pieces (textLines content)).map (rule.embedding opener document).reread := by
  rw [Embedding.textLines_renewal ready (rule.markers.nodes_pieces _)]
  apply Markers.pieces_of_cuts
  have again : ∀ piece ∈
      (rule.markers.pieces (textLines content)).map (rule.embedding opener document).reread,
      (rule.embedding opener document).Ready piece :=
    List.forall_mem_map.mpr fun piece member => Embedding.ready_reread.mpr (ready piece member)
  have fits := (Markers.cuts_iff_fits fun piece member => (ready piece member).isClosed).mp
    (rule.markers.cuts_pieces (textLines content))
  refine (Markers.cuts_iff_fits fun piece member => (again piece member).isClosed).mpr ?_
  exact List.forall_mem_map.mpr fun piece member =>
    Embedding.fits_reread (fits piece member) fun parameter opens =>
      clean parameter (Markers.mem_parameters member opens)

section

variable {text : String} {count : Nat}
  (parts : rule.markers.pieces (textLines text) = (rule.markers.pieces (textLines content)).map
    ((rule.embedding opener document).pieceAfter count))

include parts

theorem ready_of_parts
    (ready : ∀ piece ∈ rule.markers.pieces (textLines content),
      (rule.embedding opener document).Ready piece) :
    ∀ piece ∈ rule.markers.pieces (textLines text),
      (rule.embedding opener document).Ready piece := by
  rw [parts]
  exact List.forall_mem_map.mpr fun piece member =>
    Embedding.ready_pieceAfter.mpr (ready piece member)

theorem cleanTexts_of_parts (clean : rule.CleanTexts opener document content) :
    rule.CleanTexts opener document text := by
  have same : rule.markers.parameters (textLines text) =
      rule.markers.parameters (textLines content) := by
    rw [Markers.parameters, parts, List.filterMap_map]
    exact List.filterMap_congr fun piece _ => Embedding.parameter?_pieceAfter count piece
  rw [CleanTexts, same]
  exact clean

end

/-- After each of its runs the parts of a document are those of the first one, each with what the
runs made of it. -/
theorem exists_runs
    (ready : ∀ piece ∈ rule.markers.pieces (textLines content),
      (rule.embedding opener document).Ready piece)
    (clean : rule.CleanTexts opener document content) (count : Nat) :
    ∃ text, rule.runs opener document count content = .ok text ∧
      rule.markers.pieces (textLines text) = (rule.markers.pieces (textLines content)).map
        ((rule.embedding opener document).pieceAfter count) := by
  induction count with
  | zero =>
    refine ⟨content, rfl, ?_⟩
    rw [List.map_congr_left fun piece _ => Embedding.pieceAfter_zero piece, List.map_id']
  | succ count ih =>
    obtain ⟨text, ran, parts⟩ := ih
    have still_ready := ready_of_parts parts ready
    refine ⟨_, by rw [runs, ran]; exact processText_single.mpr ⟨still_ready, rfl⟩, ?_⟩
    rw [pieces_output still_ready (cleanTexts_of_parts parts clean), parts, List.map_map]
    exact List.map_congr_left fun piece _ => (Embedding.pieceAfter_succ count piece).symm

/-- Where there is room in every block, what a run leaves is a fixed point. -/
theorem processText_output {output : String}
    (went : (processText opener [rule.toRule] document content).outcome = .ok output)
    (clean : rule.CleanTexts opener document content)
    (room : ∀ piece ∈ rule.markers.pieces (textLines content),
      (rule.embedding opener document).Roomy piece) :
    (processText opener [rule.toRule] document output).outcome = .ok output := by
  obtain ⟨ready, rfl⟩ := processText_single.mp went
  have parts := pieces_output ready clean
  rw [processText_single, parts, List.flatMap_map]
  refine ⟨List.forall_mem_map.mpr fun piece member =>
    Embedding.ready_reread.mpr (ready piece member), ?_⟩
  exact congrArg render (List.flatMap_congr fun piece member =>
    (Embedding.renewal_reread (room piece member)).symm)

/-- Runs of an embedding rule, each on what the one before wrote, settle. Once a document can be
brought up to date, every further run succeeds and finds the same blocks. No run leaves more in a
block than what it keeps at both ends and its text between them. A block with room for both ends is
changed by one more run at most. After twice as many runs as any block keeps nodes and one more, the
document is a fixed point. -/
theorem runs_settle (rule : EmbedRule) (opener : Opener) (document : Path)
    (content output : String)
    (went : (processText opener [rule.toRule] document content).outcome = .ok output)
    (clean : rule.CleanTexts opener document content) :
    let embedding := rule.embedding opener document
    let parts := rule.markers.pieces (textLines content)
    let most := embedding.largestBudget (textLines content)
    (∀ count, ∃ text, rule.runs opener document count content = .ok text ∧
      rule.markers.pieces (textLines text) = parts.map (embedding.pieceAfter count)) ∧
    (∀ start parameter body stop, .block start parameter body stop ∈ parts →
      (∀ count, 1 ≤ count → (embedding.bodyAfter parameter count body).length ≤
        2 * embedding.budget parameter + (textLines (embedding.text parameter)).length) ∧
      ∀ count more,
        2 * embedding.budget parameter ≤ (embedding.bodyAfter parameter count body).length →
        embedding.bodyAfter parameter (count + 1 + more) body =
          embedding.bodyAfter parameter (count + 1) body) ∧
    ∃ settled, rule.runs opener document (2 * most + 1) content = .ok settled ∧
      (processText opener [rule.toRule] document settled).outcome = .ok settled := by
  intro embedding parts most
  have ready := (processText_single.mp went).1
  refine ⟨exists_runs ready clean, fun start parameter body stop _ =>
    ⟨fun count => Embedding.length_bodyAfter_le, fun count more room =>
      Embedding.bodyAfter_of_room room more⟩, ?_⟩
  obtain ⟨text, ran, behind⟩ := exists_runs ready clean (2 * most)
  obtain ⟨settled, last, -⟩ := exists_runs ready clean (2 * most + 1)
  have room : ∀ piece ∈ rule.markers.pieces (textLines text), embedding.Roomy piece := by
    rw [behind]
    refine List.forall_mem_map.mpr fun piece member =>
      Embedding.roomy_pieceAfter (ready piece member) fun parameter opens => ?_
    exact Nat.mul_le_mul_left 2
      (Embedding.budget_le_largestBudget (Markers.mem_parameters member opens))
  refine ⟨settled, last, ?_⟩
  rw [runs, ran] at last
  exact processText_output last (cleanTexts_of_parts behind clean) room

/-- A caption in a block that keeps one line at either end: the first run puts the text behind it,
the second takes that for a line to keep, and the third changes nothing. -/
theorem captioned_settles :
    (captionRule.embedding oneLineFile ⟨"d"⟩).largestBudget (textLines captioned) = 1 ∧
    (processText oneLineFile [captionRule.toRule] ⟨"d"⟩ captioned).outcome = .ok captionedOnce ∧
    captionRule.CleanTexts oneLineFile ⟨"d"⟩ captioned ∧
    captionRule.runs oneLineFile ⟨"d"⟩ 3 captioned = .ok captionedTwice ∧
    (processText oneLineFile [captionRule.toRule] ⟨"d"⟩ captionedTwice).outcome =
      .ok captionedTwice := by
  have most : (captionRule.embedding oneLineFile ⟨"d"⟩).largestBudget (textLines captioned) = 1 := by
    have opens : captionRule.markers.parameters (textLines captioned) = ["a"] := by
      rw [Markers.parameters, pieces_captioned]
      rfl
    rw [Embedding.largestBudget]
    show (captionRule.markers.parameters (textLines captioned)).toFinset.sup _ = 1
    rw [opens]
    simpa using captioned_budget
  have thrice : captionRule.runs oneLineFile ⟨"d"⟩ 3 captioned = .ok captionedTwice := by
    have pieces : captionRule.markers.pieces (textLines captionedTwice) =
        [.block "mapfile:a\n" "a" ["c\n", "x\n", "x\n"] "mapfile.end\n"] :=
      pieces_of_block (by decide) (by simp [caption_inside, line_inside])
    have once : captionRule.runs oneLineFile ⟨"d"⟩ 1 captioned = .ok captionedOnce := captioned_runs
    have twice : captionRule.runs oneLineFile ⟨"d"⟩ 2 captioned = .ok captionedTwice := by
      rw [runs, once]
      exact captionedOnce_runs
    rw [runs, twice]
    exact (caption_runs pieces).trans (by decide)
  obtain ⟨-, -, settled, ran, again⟩ :=
    runs_settle captionRule oneLineFile ⟨"d"⟩ captioned captionedOnce captioned_runs captioned_clean
  rw [most, thrice] at ran
  cases ran
  exact ⟨most, captioned_runs, captioned_clean, thrice, again⟩

end EmbedRule

end Transclude
