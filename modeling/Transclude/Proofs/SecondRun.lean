import Transclude.Proofs.DefaultMarkers
import Transclude.Proofs.EmbeddingRule
import Transclude.Proofs.TextLines

/-!
An embedding rule run again on what it wrote. The next run reads the text of a block as lines and
counts them along with the nodes the block kept, so the outcome stays the same exactly where the
body of a block was at least as long as what it keeps at both of its ends.
-/

namespace Transclude

namespace Embedding

variable {Target : Type} (embedding : Embedding Target)

/-- What stands in a block after a run, line by line. -/
def filled (parameter : String) (body : List String) : List String :=
  body.take (embedding.budget parameter) ++
    (textLines (embedding.text parameter) ++ keptTail (embedding.budget parameter) body)

/-- A part as the next run reads it. -/
def reread : Piece → Piece
  | .block start parameter body stop =>
    .block start parameter (embedding.filled parameter body) stop
  | other => other

variable {embedding}

theorem ended_text {parameter : String} (found : (embedding.text? parameter).isSome) :
    Ended (embedding.text parameter) := by
  obtain ⟨content, here⟩ := Option.isSome_iff_exists.mp found
  obtain ⟨_, _, loaded, -, -, rfl⟩ := embedding.text?_eq_some.mp here
  rw [text, here]
  exact ended_endLine loaded

theorem mem_of_mem_keptTail {node : String} {body : List String} {skip : Nat}
    (member : node ∈ keptTail skip body) : node ∈ body :=
  List.mem_of_mem_drop (List.mem_of_mem_drop member)

theorem length_filled (parameter : String) (body : List String) :
    (embedding.filled parameter body).length =
      min (2 * embedding.budget parameter) body.length +
        (textLines (embedding.text parameter)).length := by
  simp only [filled, keptTail, List.rtake, List.length_append, List.length_take, List.length_drop]
  omega

theorem Ready.isClosed {piece : Piece} (ready : embedding.Ready piece) : piece.IsClosed := by
  cases piece with
  | plain _ | block _ _ _ _ => trivial
  | unclosed _ _ _ => exact ready

theorem ready_reread {piece : Piece} :
    embedding.Ready (embedding.reread piece) ↔ embedding.Ready piece := by
  cases piece with
  | plain _ | block _ _ _ _ | unclosed _ _ _ => exact Iff.rfl

/-- The lines of what a part became are the part as the next run reads it. -/
theorem flatMap_textLines_renewal {piece : Piece} (lines : ∀ node ∈ piece.nodes, IsLine node) :
    (embedding.renewal piece).flatMap textLines = (embedding.reread piece).nodes := by
  cases piece with
  | plain _ | unclosed _ _ _ => exact flatMap_textLines lines
  | block start parameter body stop =>
    simp only [Piece.nodes, List.cons_append, List.forall_mem_cons, List.forall_mem_append,
      List.not_mem_nil, false_implies, implies_true, and_true] at lines
    obtain ⟨opening, inside, closing⟩ := lines
    have front : (body.take (embedding.budget parameter)).flatMap textLines =
        body.take (embedding.budget parameter) :=
      flatMap_textLines fun node member => inside node (List.mem_of_mem_take member)
    have back : (keptTail (embedding.budget parameter) body).flatMap textLines =
        keptTail (embedding.budget parameter) body :=
      flatMap_textLines fun node member => inside node (mem_of_mem_keptTail member)
    rw [IsLine] at opening closing
    simp [renewal, renewed, reread, filled, Piece.nodes, front, back, opening, closing]

/-- Where the start and the body of a block end their lines, so does all that stands before the end
marker afterwards. -/
theorem ended_before_stop {start text : String} {body : List String} {skip : Nat}
    (whole : Ended text) (ended : ∀ node ∈ start :: body, Ended node) :
    ∀ node ∈ start :: body.take skip ++ text :: keptTail skip body, Ended node := by
  rw [List.forall_mem_cons] at ended
  rw [List.forall_mem_append, List.forall_mem_cons, List.forall_mem_cons]
  refine ⟨⟨ended.1, fun node member => ?_⟩, whole, fun node member => ?_⟩
  · exact ended.2 node (List.mem_of_mem_take member)
  · exact ended.2 node (mem_of_mem_keptTail member)

theorem ended_renewal {piece : Piece} (ready : embedding.Ready piece)
    (ended : ∀ node ∈ piece.nodes, Ended node) : ∀ node ∈ embedding.renewal piece, Ended node := by
  cases piece with
  | plain _ | unclosed _ _ _ => exact ended
  | block start parameter body stop =>
    rw [Piece.nodes, List.forall_mem_append] at ended
    rw [renewal, renewed, List.forall_mem_append]
    exact ⟨ended_before_stop (ended_text ready) ended.1, ended.2⟩

theorem joined_renewal_piece {piece : Piece} (ready : embedding.Ready piece)
    (joined : Joined piece.nodes) : Joined (embedding.renewal piece) := by
  cases piece with
  | plain _ | unclosed _ _ _ => exact joined
  | block start parameter body stop =>
    rw [Piece.nodes, joined_concat] at joined
    rw [renewal, renewed, joined_concat]
    exact ended_before_stop (ended_text ready) joined

/-- Bringing parts up to date leaves no text without its end but the last. -/
theorem joined_renewal {cut : List Piece} (ready : ∀ piece ∈ cut, embedding.Ready piece)
    (joined : Joined (cut.flatMap Piece.nodes)) : Joined (cut.flatMap embedding.renewal) := by
  induction cut with
  | nil => exact joined
  | cons piece rest ih =>
    rw [List.forall_mem_cons] at ready
    rw [List.flatMap_cons] at joined ⊢
    by_cases blank : rest = []
    · rw [blank, List.flatMap_nil, List.append_nil] at joined ⊢
      exact joined_renewal_piece ready.1 joined
    · rw [joined_append (Piece.flatMap_nodes_ne_nil blank)] at joined
      exact joined_append_of_ended (ended_renewal ready.1 joined.1) (ih ready.2 joined.2)

/-- The lines of a document that was brought up to date are the parts as the next run reads them. -/
theorem textLines_renewal {cut : List Piece} (ready : ∀ piece ∈ cut, embedding.Ready piece)
    {content : String} (lines : cut.flatMap Piece.nodes = textLines content) :
    textLines (render (cut.flatMap embedding.renewal)) =
      (cut.map embedding.reread).flatMap Piece.nodes := by
  have joined : Joined (cut.flatMap Piece.nodes) := lines ▸ joined_textLines content
  rw [textLines_render (joined_renewal ready joined), List.flatMap_assoc, List.flatMap_map]
  refine List.flatMap_congr fun piece member => flatMap_textLines_renewal fun node inside => ?_
  have line : node ∈ textLines content := lines ▸ List.mem_flatMap.mpr ⟨piece, member, inside⟩
  exact isLine_of_mem_textLines line

/-- The next run finds a part again, if no line it reads in it ends a block early. -/
theorem fits_reread {piece : Piece} (fits : embedding.markers.Fits piece)
    (clean : ∀ parameter, piece.parameter? = some parameter →
      ∀ line ∈ textLines (embedding.text parameter), embedding.markers.isStop line = false) :
    embedding.markers.Fits (embedding.reread piece) := by
  cases piece with
  | plain _ | unclosed _ _ _ => exact fits
  | block start parameter body stop =>
    obtain ⟨opening, inside, closing⟩ := fits
    refine ⟨opening, ?_, closing⟩
    rw [filled, List.forall_mem_append, List.forall_mem_append]
    refine ⟨fun node member => ?_, clean parameter rfl, fun node member => ?_⟩
    · exact inside node (List.mem_of_mem_take member)
    · exact inside node (mem_of_mem_keptTail member)

variable (embedding) in
/-- A block in which the nodes kept at one end do not run into those kept at the other. -/
def Roomy : Piece → Prop
  | .block _ parameter body _ => 2 * embedding.budget parameter ≤ body.length
  | _ => True

section

variable {parameter : String} {body : List String}

/-- With room in a block, the nodes kept at its start are the first ones that are read again. -/
theorem take_filled (room : 2 * embedding.budget parameter ≤ body.length) :
    (embedding.filled parameter body).take (embedding.budget parameter) =
        body.take (embedding.budget parameter) ∧
      (embedding.filled parameter body).drop (embedding.budget parameter) =
        textLines (embedding.text parameter) ++ keptTail (embedding.budget parameter) body := by
  have front : (body.take (embedding.budget parameter)).length = embedding.budget parameter := by
    rw [List.length_take]
    exact Nat.min_eq_left (by omega)
  exact ⟨List.take_left' front, List.drop_left' front⟩

/-- With room in a block, the nodes kept at its end are the last ones that are read again. -/
theorem keptTail_filled (room : 2 * embedding.budget parameter ≤ body.length) :
    keptTail (embedding.budget parameter) (embedding.filled parameter body) =
      keptTail (embedding.budget parameter) body := by
  have back : (keptTail (embedding.budget parameter) body).length =
      embedding.budget parameter := by
    simp only [keptTail, List.rtake, List.length_drop]
    omega
  rw [keptTail, (take_filled room).2]
  refine List.drop_left' ?_
  rw [List.length_append, back, Nat.add_sub_cancel]

end

/-- A block with room keeps the same nodes when it is read again. -/
theorem renewal_reread {piece : Piece} (room : embedding.Roomy piece) :
    embedding.renewal (embedding.reread piece) = embedding.renewal piece := by
  cases piece with
  | plain _ | unclosed _ _ _ => rfl
  | block start parameter body stop =>
    rw [reread, renewal, renewal, renewed, renewed, (take_filled room).1, keptTail_filled room]

/-- Reading a part again never shortens it, and a block without room becomes longer. -/
theorem length_reread_reread {piece : Piece} (ready : embedding.Ready piece) :
    (embedding.reread piece).nodes.length ≤
        (embedding.reread (embedding.reread piece)).nodes.length ∧
      ((embedding.reread piece).nodes.length =
        (embedding.reread (embedding.reread piece)).nodes.length → embedding.Roomy piece) := by
  cases piece with
  | plain _ | unclosed _ _ _ => exact ⟨Nat.le_refl _, fun _ => trivial⟩
  | block start parameter body stop =>
    have some_line := textLines_length_pos (ended_text ready)
    simp only [reread, Piece.length_nodes_block, length_filled, Roomy]
    omega

theorem roomy_of_nodeCount {cut : List Piece} (ready : ∀ piece ∈ cut, embedding.Ready piece) :
    nodeCount (cut.map embedding.reread) ≤
        nodeCount ((cut.map embedding.reread).map embedding.reread) ∧
      (nodeCount (cut.map embedding.reread) =
        nodeCount ((cut.map embedding.reread).map embedding.reread) →
          ∀ piece ∈ cut, embedding.Roomy piece) := by
  induction cut with
  | nil => exact ⟨Nat.le_refl _, fun _ => List.forall_mem_nil _⟩
  | cons piece rest ih =>
    rw [List.forall_mem_cons] at ready
    obtain ⟨shorter, equal⟩ := length_reread_reread ready.1
    obtain ⟨others, all_equal⟩ := ih ready.2
    simp only [List.map_cons, nodeCount_cons, List.forall_mem_cons]
    exact ⟨by omega, fun same => ⟨equal (by omega), all_equal (by omega)⟩⟩

end Embedding

/-- Rules are run on the lines of a text. -/
theorem outcome_processText (opener : Opener) (rules : List Rule) (path : Path) (text : String) :
    (processText opener rules path text).outcome =
      (Rule.applyAll opener rules path (textLines text)).outcome.map render := by
  have read : (parse path (.ofText text)).outcome = .ok (textLines text) := by
    rw [parse, Stream.lines_ofText]
    rfl
  rw [processText, Run.outcome_within, Run.outcome_bind, read]
  change (Run.within .applyRules _ >>= _).outcome = _
  rw [Run.outcome_bind, Run.outcome_within]
  cases (Rule.applyAll opener rules path (textLines text)).outcome <;> rfl

theorem applyAll_single (opener : Opener) (rule : Rule) :
    Rule.applyAll opener [rule] = rule.apply opener := by
  funext document nodes
  simp only [Rule.applyAll]
  exact bind_pure _

/-- Of two rules, the second goes on with what the first made of the document. -/
theorem applyAll_pair (opener : Opener) (first second : Rule) (document : Path)
    (nodes : List String) :
    Rule.applyAll opener [first, second] document nodes =
      first.apply opener document nodes >>= second.apply opener document := by
  simp only [Rule.applyAll]
  exact bind_congr fun _ => bind_pure _

theorem processText_eq_ok {opener : Opener} {rules : List Rule} {path : Path}
    {text output : String} :
    (processText opener rules path text).outcome = .ok output ↔
      ∃ nodes, (Rule.applyAll opener rules path (textLines text)).outcome = .ok nodes ∧
        output = render nodes := by
  rw [outcome_processText]
  cases (Rule.applyAll opener rules path (textLines text)).outcome with
  | error failure => simp [Except.map]
  | ok nodes => simp [Except.map, eq_comm]

namespace EmbedRule

variable {rule : EmbedRule} {opener : Opener} {document : Path}

/-- A pipeline of one embedding rule succeeds when all parts of the document are ready. -/
theorem processText_single {content output : String} :
    (processText opener [rule.toRule] document content).outcome = .ok output ↔
      (∀ piece ∈ rule.markers.pieces (textLines content),
        (rule.embedding opener document).Ready piece) ∧
      output = render ((rule.markers.pieces (textLines content)).flatMap
        (rule.embedding opener document).renewal) := by
  rw [processText_eq_ok, applyAll_single]
  constructor
  · rintro ⟨nodes, went, rfl⟩
    obtain ⟨ready, rfl⟩ := apply_eq_ok.mp went
    exact ⟨ready, rfl⟩
  · rintro ⟨ready, rfl⟩
    exact ⟨_, apply_eq_ok.mpr ⟨ready, rfl⟩, rfl⟩

/-- Running an embedding rule again succeeds, and it changes nothing exactly when every block of the
document had a body of at least twice as many nodes as it keeps at either end. -/
theorem processText_again_iff_roomy (rule : EmbedRule) (opener : Opener) (document : Path)
    (content output : String)
    (went : (processText opener [rule.toRule] document content).outcome = .ok output)
    (clean : ∀ parameter ∈ rule.markers.parameters (textLines content),
      ∀ line ∈ textLines ((rule.embedding opener document).text parameter),
        rule.markers.isStop line = false) :
    ∃ again, (processText opener [rule.toRule] document output).outcome = .ok again ∧
      (again = output ↔ ∀ piece ∈ rule.markers.pieces (textLines content),
        (rule.embedding opener document).Roomy piece) := by
  obtain ⟨ready, rfl⟩ := processText_single.mp went
  set embedding := rule.embedding opener document
  set cut := rule.markers.pieces (textLines content) with cut_eq
  have whole : cut.flatMap Piece.nodes = textLines content := rule.markers.nodes_pieces _
  have again_ready : ∀ piece ∈ cut.map embedding.reread, embedding.Ready piece :=
    List.forall_mem_map.mpr fun piece member => Embedding.ready_reread.mpr (ready piece member)
  have fits := (Markers.cuts_iff_fits fun piece member => (ready piece member).isClosed).mp
    (rule.markers.cuts_pieces (textLines content))
  have cuts : rule.markers.Cuts (cut.map embedding.reread) := by
    refine (Markers.cuts_iff_fits fun piece member => (again_ready piece member).isClosed).mpr ?_
    exact List.forall_mem_map.mpr fun piece member =>
      Embedding.fits_reread (fits piece member) fun parameter opens =>
        clean parameter (Markers.mem_parameters member opens)
  have lines := Embedding.textLines_renewal ready whole
  have again_cut : rule.markers.pieces (textLines (render (cut.flatMap embedding.renewal))) =
      cut.map embedding.reread := by
    rw [lines]
    exact Markers.pieces_of_cuts cuts
  refine ⟨_, processText_single.mpr ⟨again_cut ▸ again_ready, rfl⟩, ?_⟩
  rw [again_cut]
  constructor
  · intro same
    have again_lines := Embedding.textLines_renewal again_ready lines.symm
    rw [same, lines] at again_lines
    exact (Embedding.roomy_of_nodeCount ready).2 (congrArg List.length again_lines)
  · intro room
    rw [List.flatMap_map]
    exact congrArg render (List.flatMap_congr fun piece member =>
      Embedding.renewal_reread (room piece member))

/-- A file of one line. -/
def oneLineFile : Opener := (FileSet.empty.insert ⟨"a"⟩ (.readable (.ofText "x\n"))).opener

/-- A rule that keeps one line at either end of a block. -/
def captionRule : EmbedRule := ⟨.file, .standard .mapfile, 1, []⟩

/-- A document with a caption in its only block, which is shorter than what the rule keeps. -/
def captioned : String := "mapfile:a\nc\nmapfile.end\n"

def captionedOnce : String := "mapfile:a\nc\nx\nmapfile.end\n"

def captionedTwice : String := "mapfile:a\nc\nx\nx\nmapfile.end\n"

theorem captioned_text :
    (captionRule.embedding oneLineFile ⟨"d"⟩).text? "a" = some "x\n" := by
  with_unfolding_all rfl

theorem captioned_budget : (captionRule.embedding oneLineFile ⟨"d"⟩).budget "a" = 1 := by
  with_unfolding_all rfl

theorem block_opening : (Markers.standard .mapfile).parameter? "mapfile:a\n" = some "a" :=
  (Markers.parameter?_standard .mapfile _).trans (by decide)

theorem block_closing : (Markers.standard .mapfile).isStop "mapfile.end\n" = true :=
  (Markers.isStop_standard .mapfile _).trans (by decide)

/-- The cut of a document that is one block. -/
theorem pieces_of_block {content : String} {body : List String}
    (lines : textLines content = "mapfile:a\n" :: body ++ ["mapfile.end\n"])
    (inside : ∀ line ∈ body, (Markers.standard .mapfile).isStop line = false) :
    (Markers.standard .mapfile).pieces (textLines content) =
      [.block "mapfile:a\n" "a" body "mapfile.end\n"] := by
  rw [lines, Markers.pieces_block_append block_opening inside block_closing, Markers.pieces]

theorem caption_inside : (Markers.standard .mapfile).isStop "c\n" = false :=
  (Markers.isStop_standard .mapfile _).trans (by decide)

theorem line_inside : (Markers.standard .mapfile).isStop "x\n" = false :=
  (Markers.isStop_standard .mapfile _).trans (by decide)

theorem pieces_captioned : captionRule.markers.pieces (textLines captioned) =
    [.block "mapfile:a\n" "a" ["c\n"] "mapfile.end\n"] :=
  pieces_of_block (by decide) (by simp [caption_inside])

/-- What a run makes of a document with one block. -/
theorem caption_runs {content : String} {body : List String}
    (pieces : captionRule.markers.pieces (textLines content) =
      [.block "mapfile:a\n" "a" body "mapfile.end\n"]) :
    (processText oneLineFile [captionRule.toRule] ⟨"d"⟩ content).outcome =
      .ok (render (renewed 1 "mapfile:a\n" "x\n" body "mapfile.end\n")) := by
  refine processText_single.mpr ⟨?_, ?_⟩
  · rw [pieces, List.forall_mem_singleton, Embedding.Ready, captioned_text]
    rfl
  · rw [pieces, List.flatMap_singleton, Embedding.renewal, Embedding.text, captioned_text,
      captioned_budget]
    rfl

theorem captioned_runs :
    (processText oneLineFile [captionRule.toRule] ⟨"d"⟩ captioned).outcome = .ok captionedOnce :=
  (caption_runs pieces_captioned).trans (by decide)

theorem captionedOnce_runs :
    (processText oneLineFile [captionRule.toRule] ⟨"d"⟩ captionedOnce).outcome =
      .ok captionedTwice := by
  have pieces : captionRule.markers.pieces (textLines captionedOnce) =
      [.block "mapfile:a\n" "a" ["c\n", "x\n"] "mapfile.end\n"] :=
    pieces_of_block (by decide) (by simp [caption_inside, line_inside])
  exact (caption_runs pieces).trans (by decide)

theorem captioned_clean : ∀ parameter ∈ captionRule.markers.parameters (textLines captioned),
    ∀ line ∈ textLines ((captionRule.embedding oneLineFile ⟨"d"⟩).text parameter),
      captionRule.markers.isStop line = false := by
  have lines : textLines ((captionRule.embedding oneLineFile ⟨"d"⟩).text "a") = ["x\n"] := by
    rw [Embedding.text, captioned_text]
    decide
  intro parameter member
  rw [Markers.parameters, pieces_captioned, List.mem_filterMap] at member
  obtain ⟨piece, here, opens⟩ := member
  rw [List.mem_singleton.mp here] at opens
  cases opens
  rw [lines, List.forall_mem_singleton]
  exact line_inside

/-- Behind a single caption, the line that the first run embedded is kept by the second. -/
theorem captioned_grows :
    (processText oneLineFile [captionRule.toRule] ⟨"d"⟩ captioned).outcome = .ok captionedOnce ∧
    (∀ parameter ∈ captionRule.markers.parameters (textLines captioned),
      ∀ line ∈ textLines ((captionRule.embedding oneLineFile ⟨"d"⟩).text parameter),
        captionRule.markers.isStop line = false) ∧
    (processText oneLineFile [captionRule.toRule] ⟨"d"⟩ captionedOnce).outcome =
      .ok captionedTwice ∧ captionedTwice ≠ captionedOnce :=
  ⟨captioned_runs, captioned_clean, captionedOnce_runs, by decide⟩

theorem captioned_again :
    ∃ again, (processText oneLineFile [captionRule.toRule] ⟨"d"⟩ captionedOnce).outcome =
      .ok again ∧ (again = captionedOnce ↔
        ∀ piece ∈ captionRule.markers.pieces (textLines captioned),
          (captionRule.embedding oneLineFile ⟨"d"⟩).Roomy piece) :=
  processText_again_iff_roomy captionRule oneLineFile ⟨"d"⟩ captioned captionedOnce
    captioned_runs captioned_clean

end EmbedRule

end Transclude
