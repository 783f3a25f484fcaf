import Transclude.Proofs.RulePair

/-!
Text that one rule puts into a document, as the next rule sees it. The next rule takes it for one
more node and looks for its own start marker in it. So the text is left alone where it has no such
marker; where it has one, it opens a block, and unless an end marker follows the document fails.
-/

namespace Transclude

namespace Markers

variable {markers : Markers}

/-- Where no node ends a block, a start marker opens one that has no end. -/
theorem exists_unclosed {nodes : List String}
    (clean : ∀ node ∈ nodes, markers.isStop node = false) {node parameter : String}
    (member : node ∈ nodes) (opening : markers.parameter? node = some parameter) :
    ∃ piece ∈ markers.pieces nodes, ¬piece.IsClosed := by
  by_contra all
  have closed : ∀ piece ∈ markers.pieces nodes, piece.IsClosed := by
    intro piece here
    by_contra left_open
    exact all ⟨piece, here, left_open⟩
  have fits := (cuts_iff_fits closed).mp (markers.cuts_pieces nodes)
  rw [← markers.nodes_pieces nodes, List.mem_flatMap] at member
  obtain ⟨piece, here, inside⟩ := member
  have fit := fits piece here
  cases piece with
  | plain other =>
    have outside : markers.parameter? other = none := fit
    rw [← List.mem_singleton.mp inside, opening] at outside
    cases outside
  | block start other body stop =>
    have last : stop ∈ nodes := by
      rw [← markers.nodes_pieces nodes]
      exact List.mem_flatMap.mpr ⟨_, here, by simp [Piece.nodes]⟩
    have ends : markers.isStop stop = true := fit.2.2
    rw [clean stop last] at ends
    cases ends
  | unclosed start other body => exact closed _ here

end Markers

namespace Embedding

variable {Target : Type} (embedding : Embedding Target)

def texts (nodes : List String) : List String :=
  (embedding.markers.parameters nodes).map embedding.text

variable {embedding}

/-- A document that was brought up to date consists of nodes that it had and texts put in. -/
theorem mem_flatMap_renewal {nodes : List String} {node : String}
    (member : node ∈ (embedding.markers.pieces nodes).flatMap embedding.renewal) :
    node ∈ nodes ∨ node ∈ embedding.texts nodes := by
  obtain ⟨piece, here, inside⟩ := List.mem_flatMap.mp member
  have kept : node ∈ piece.nodes → node ∈ nodes := by
    intro there
    rw [← embedding.markers.nodes_pieces nodes]
    exact List.mem_flatMap.mpr ⟨piece, here, there⟩
  cases piece with
  | plain _ | unclosed _ _ _ => exact .inl (kept inside)
  | block start parameter body stop =>
    simp only [renewal, renewed, List.cons_append, List.append_assoc, List.mem_cons,
      List.mem_append, List.not_mem_nil, or_false] at inside
    simp only [Piece.nodes, List.cons_append, List.mem_cons, List.mem_append, List.not_mem_nil,
      or_false] at kept
    rcases inside with same | head | same | tail | same
    · exact .inl (kept (.inl same))
    · exact .inl (kept (.inr (.inl (List.mem_of_mem_take head))))
    · refine .inr (List.mem_map.mpr ⟨parameter, Markers.mem_parameters here rfl, same.symm⟩)
    · exact .inl (kept (.inr (.inl (mem_of_mem_keptTail tail))))
    · exact .inl (kept (.inr (.inr same)))

/-- Every text that is asked for is put in, where all blocks are closed. -/
theorem mem_renewal_of_mem_texts {nodes : List String}
    (closed : ∀ piece ∈ embedding.markers.pieces nodes, piece.IsClosed) {text : String}
    (member : text ∈ embedding.texts nodes) :
    text ∈ (embedding.markers.pieces nodes).flatMap embedding.renewal := by
  obtain ⟨parameter, asked, rfl⟩ := List.mem_map.mp member
  obtain ⟨piece, here, opens⟩ := List.mem_filterMap.mp asked
  refine List.mem_flatMap.mpr ⟨piece, here, ?_⟩
  cases piece with
  | plain node => cases opens
  | block start other body stop =>
    cases opens
    simp [renewal, renewed]
  | unclosed start other body => exact (closed _ here).elim

end Embedding

namespace EmbedRule

variable {first second : EmbedRule} {opener : Opener} {document : Path}

/-- A rule leaves nodes alone in which it finds no start marker. -/
theorem apply_of_no_start {rule : EmbedRule} {nodes : List String}
    (outside : ∀ node ∈ nodes, rule.markers.parameter? node = none) :
    (rule.toRule.apply opener document nodes).outcome = .ok nodes := by
  have cut : rule.markers.pieces nodes = nodes.map .plain := by
    have whole := Markers.pieces_plain_append outside []
    rwa [List.append_nil, Markers.pieces, List.append_nil] at whole
  rw [apply_eq_ok, cut]
  refine ⟨?_, (Embedding.flatMap_renewal_plain _ nodes).symm⟩
  exact List.forall_mem_map.mpr fun node member => trivial

/-- Two rules leave a document alone in which neither finds a start marker. -/
theorem processText_pair_of_no_start {content : String}
    (outside : ∀ line ∈ textLines content, first.markers.parameter? line = none)
    (later_outside : ∀ line ∈ textLines content, second.markers.parameter? line = none) :
    (processText opener [first.toRule, second.toRule] document content).outcome = .ok content := by
  rw [processText_eq_ok, applyAll_pair]
  exact ⟨_, Run.bind_eq_ok.mpr ⟨_, apply_of_no_start outside, apply_of_no_start later_outside⟩,
    (render_textLines content).symm⟩

/-- A pipeline of two rules fails where the first rule does. -/
theorem processText_pair_of_error {content : String} {failure : Failure}
    (failed : (processText opener [first.toRule] document content).outcome = .error failure) :
    (processText opener [first.toRule, second.toRule] document content).outcome =
      .error failure := by
  rw [outcome_processText, applyAll_single] at failed
  rw [outcome_processText, applyAll_pair, Run.outcome_bind]
  cases went : (first.toRule.apply opener document (textLines content)).outcome with
  | error cause =>
    rw [went] at failed
    exact failed
  | ok nodes =>
    rw [went] at failed
    cases failed

/-- A second rule changes nothing where neither the document nor what the first rule puts into it
has a start marker of the second. -/
theorem processText_pair_eq_single {content : String}
    (outside : ∀ line ∈ textLines content, second.markers.parameter? line = none)
    (silent : ∀ text ∈ (first.embedding opener document).texts (textLines content),
      second.markers.parameter? text = none) :
    (processText opener [first.toRule, second.toRule] document content).outcome =
      (processText opener [first.toRule] document content).outcome := by
  rw [outcome_processText, outcome_processText, applyAll_pair, applyAll_single, Run.outcome_bind]
  cases went : (first.toRule.apply opener document (textLines content)).outcome with
  | error failure => rfl
  | ok nodes =>
    obtain ⟨-, rfl⟩ := apply_eq_ok.mp went
    have alone : (second.toRule.apply opener document
        ((first.markers.pieces (textLines content)).flatMap
          (first.embedding opener document).renewal)).outcome = .ok _ :=
      apply_of_no_start fun node member =>
        (Embedding.mem_flatMap_renewal member).elim (outside node) (silent node)
    exact congrArg (Except.map render) alone

/-- Where nothing ends a block of a second rule, a start marker in a text that the first rule puts
in makes the pipeline fail. -/
theorem processText_pair_fails {content : String}
    (clean : ∀ node ∈ textLines content ++
      (first.embedding opener document).texts (textLines content),
        second.markers.isStop node = false)
    {text parameter : String}
    (member : text ∈ (first.embedding opener document).texts (textLines content))
    (opening : second.markers.parameter? text = some parameter) (output : String) :
    (processText opener [first.toRule, second.toRule] document content).outcome ≠ .ok output := by
  intro went
  obtain ⟨ready, later_ready, -⟩ := processText_pair.mp went
  rw [List.forall_mem_append] at clean
  have put := Embedding.mem_renewal_of_mem_texts
    (fun piece here => (ready piece here).isClosed) member
  obtain ⟨piece, here, left_open⟩ := Markers.exists_unclosed
    (fun node inside => (Embedding.mem_flatMap_renewal inside).elim (clean.1 node) (clean.2 node))
    put opening
  exact left_open (later_ready piece here).isClosed

theorem defaults_eq : Rule.defaults = [fileRule.toRule, regionRule.toRule] := rfl

/-- The default rules do with a document what the first of them does alone, if no text that is put
in looks like a start marker of the second. Where nothing ends a block of the second rule, they do
so only then. -/
theorem defaults_eq_mapfile_alone (opener : Opener) (document : Path) (content : String)
    (outside : ∀ line ∈ textLines content, regionRule.markers.parameter? line = none) :
    let texts := (fileRule.embedding opener document).texts (textLines content)
    let alone := (processText opener [fileRule.toRule] document content).outcome
    let both := (processText opener Rule.defaults document content).outcome
    ((∀ text ∈ texts, regionRule.markers.parameter? text = none) → both = alone) ∧
    ((∀ node ∈ textLines content ++ texts, regionRule.markers.isStop node = false) →
      (both = alone ↔ (∃ failure, alone = .error failure) ∨
        ∀ text ∈ texts, regionRule.markers.parameter? text = none)) := by
  rw [defaults_eq]
  intro texts alone both
  have silent : (∀ text ∈ texts, regionRule.markers.parameter? text = none) → both = alone :=
    processText_pair_eq_single outside
  refine ⟨silent, fun clean => ⟨fun same => ?_, ?_⟩⟩
  · cases ran : alone with
    | error failure => exact .inl ⟨failure, rfl⟩
    | ok output =>
      refine .inr fun text member => ?_
      by_contra marked
      obtain ⟨parameter, opening⟩ := Option.ne_none_iff_exists'.mp marked
      exact processText_pair_fails clean member opening output (same.trans ran)
  · rintro (⟨failure, failed⟩ | quiet)
    · rw [failed]
      exact processText_pair_of_error failed
    · exact silent quiet

def markedFile : Opener :=
  (FileSet.empty.insert ⟨"a"⟩ (.readable (.ofText "maprange:b,r\n"))).opener

def oneBlock : String := "mapfile:a\nmapfile.end\n"

theorem oneBlock_outside :
    ∀ line ∈ textLines oneBlock, regionRule.markers.parameter? line = none := by
  simp only [regionRule, Markers.parameter?_standard]
  decide

theorem pieces_oneBlock : fileRule.markers.pieces (textLines oneBlock) =
    [.block "mapfile:a\n" "a" [] "mapfile.end\n"] :=
  pieces_of_block (by decide) (List.forall_mem_nil _)

theorem markedFile_embedded :
    (fileRule.toRule.apply markedFile ⟨"d"⟩ (textLines oneBlock)).outcome =
      .ok ["mapfile:a\n", "maprange:b,r\n", "mapfile.end\n"] := by
  have text : (fileRule.embedding markedFile ⟨"d"⟩).text? "a" = some "maprange:b,r\n" := by
    with_unfolding_all rfl
  refine apply_eq_ok.mpr ⟨?_, ?_⟩
  · simp [pieces_oneBlock, Embedding.Ready, text]
  · rw [pieces_oneBlock, List.flatMap_singleton, Embedding.renewal_of_budget (fileRule_budget _),
      Embedding.text, text]
    rfl

theorem markedFile_unclosed :
    (regionRule.toRule.apply markedFile ⟨"d"⟩
      ["mapfile:a\n", "maprange:b,r\n", "mapfile.end\n"]).outcome =
      .error (.unterminated .maprange ⟨"d"⟩ 2) := by
  have cut : regionRule.markers.pieces ["mapfile:a\n", "maprange:b,r\n", "mapfile.end\n"] =
      [.plain "mapfile:a\n", .unclosed "maprange:b,r\n" "b,r" ["mapfile.end\n"]] := by
    refine Markers.pieces_eq_iff.mpr ⟨?_, by decide⟩
    simp only [regionRule, Markers.Cuts, Markers.parameter?_standard, Markers.isStop_standard]
    decide
  rw [outcome_apply, cut]
  with_unfolding_all rfl

/-- A marker in an embedded file is taken for one of the document, which has none. -/
theorem markedFile_acted_upon :
    (∀ line ∈ textLines oneBlock, regionRule.markers.parameter? line = none) ∧
    (processText markedFile [fileRule.toRule] ⟨"d"⟩ oneBlock).outcome =
      .ok "mapfile:a\nmaprange:b,r\nmapfile.end\n" ∧
    (processText markedFile Rule.defaults ⟨"d"⟩ oneBlock).outcome =
      .error (.unterminated .maprange ⟨"d"⟩ 2) := by
  refine ⟨oneBlock_outside, ?_, ?_⟩
  · rw [outcome_processText, applyAll_single, markedFile_embedded]
    decide
  · rw [defaults_eq, outcome_processText, applyAll_pair, Run.outcome_bind, markedFile_embedded]
    exact congrArg (Except.map render) markedFile_unclosed

theorem oneLineFile_text : (fileRule.embedding oneLineFile ⟨"d"⟩).text "a" = "x\n" := by
  with_unfolding_all rfl

theorem line_unmarked : regionRule.markers.parameter? "x\n" = none :=
  (Markers.parameter?_standard .maprange _).trans (by decide)

theorem oneBlock_alone :
    (processText oneLineFile Rule.defaults ⟨"d"⟩ oneBlock).outcome =
      (processText oneLineFile [fileRule.toRule] ⟨"d"⟩ oneBlock).outcome := by
  have texts : (fileRule.embedding oneLineFile ⟨"d"⟩).texts (textLines oneBlock) = ["x\n"] := by
    have asked : (fileRule.embedding oneLineFile ⟨"d"⟩).markers.parameters (textLines oneBlock) =
        ["a"] := congrArg (List.filterMap Piece.parameter?) pieces_oneBlock
    rw [Embedding.texts, asked, List.map_singleton, oneLineFile_text]
  refine (defaults_eq_mapfile_alone oneLineFile ⟨"d"⟩ oneBlock oneBlock_outside).1 ?_
  rw [texts, List.forall_mem_singleton]
  exact line_unmarked

end EmbedRule

end Transclude
