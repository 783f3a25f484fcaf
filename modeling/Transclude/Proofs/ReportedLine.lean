import Transclude.Proofs.EmbeddedText
import Transclude.Proofs.FirstFault
import Transclude.Proofs.RegionPass
import Transclude.Settings

/-!
The line at which a missing end marker is reported. A rule counts the nodes that it gets, so the
first rule of a pipeline reports a line of the document. The second one counts what the first has
left: its line is off by as many nodes as the blocks in front of it lost or gained, and where it
takes an embedded text for a start marker, no line of the document stands behind what it reports.
-/

namespace Transclude

namespace Embedding

variable {Target : Type} (embedding : Embedding Target)

/-- A part that has as many nodes afterwards as it had before. -/
def Level : Piece → Prop
  | .block _ parameter body _ => body.length = 2 * embedding.budget parameter + 1
  | _ => True

variable {embedding}

theorem length_renewal_of_level {piece : Piece} (level : embedding.Level piece) :
    (embedding.renewal piece).length = piece.nodes.length := by
  cases piece with
  | plain _ | unclosed _ _ _ => rfl
  | block start parameter body stop =>
    rw [Level] at level
    simp only [renewal, renewed, keptTail, List.rtake, Piece.nodes, List.length_append,
      List.length_cons, List.length_take, List.length_drop, List.length_nil]
    omega

theorem length_flatMap_renewal_of_level {cut : List Piece}
    (level : ∀ piece ∈ cut, embedding.Level piece) :
    (cut.flatMap embedding.renewal).length = nodeCount cut := by
  induction cut with
  | nil => rfl
  | cons piece rest ih =>
    rw [List.forall_mem_cons] at level
    rw [List.flatMap_cons, List.length_append, nodeCount_cons, ih level.2,
      length_renewal_of_level level.1]

/-- A block keeps what stands in front of its stale nodes and what stands behind them. -/
theorem exists_stale (parameter start stop : String) (body : List String) :
    ∃ front stale back, (Piece.block start parameter body stop).nodes = front ++ stale ++ back ∧
      embedding.renewal (.block start parameter body stop) =
        front ++ embedding.text parameter :: back := by
  set skip := embedding.budget parameter with skip_eq
  refine ⟨start :: body.take skip, (body.drop skip).take ((body.drop skip).length - skip),
    keptTail skip body ++ [stop], ?_, ?_⟩
  · have tail : (body.drop skip).take ((body.drop skip).length - skip) ++ keptTail skip body =
        body.drop skip := List.take_append_drop _ _
    rw [Piece.nodes, List.append_assoc, ← List.append_assoc _ (keptTail skip body), tail,
      List.cons_append, List.cons_append, ← List.append_assoc, List.take_append_drop]
  · simp [renewal, renewed, ← skip_eq]

/-- A node of a part that was brought up to date is the text that was put in, or it stood in the
part, as far from the start or as far from the end. -/
theorem exists_source_in_part {piece : Piece} {index : Nat} {node : String}
    (here : (embedding.renewal piece)[index]? = some node) :
    (∃ parameter, piece.parameter? = some parameter ∧ node = embedding.text parameter) ∨
    ∃ origin, piece.nodes[origin]? = some node ∧ (index = origin ∨
      index + piece.nodes.length = origin + (embedding.renewal piece).length) := by
  cases piece with
  | plain _ | unclosed _ _ _ => exact .inr ⟨index, here, .inl rfl⟩
  | block start parameter body stop =>
    obtain ⟨front, stale, back, before, after⟩ :=
      embedding.exists_stale parameter start stop body
    rw [after] at here ⊢
    rw [before]
    rcases Nat.lt_trichotomy index front.length with ahead | rfl | behind
    · rw [List.getElem?_append_left ahead] at here
      refine .inr ⟨index, ?_, .inl rfl⟩
      rw [List.append_assoc, List.getElem?_append_left ahead]
      exact here
    · rw [List.getElem?_append_right (Nat.le_refl _), Nat.sub_self, List.getElem?_cons_zero] at here
      exact .inl ⟨parameter, rfl, (Option.some.inj here).symm⟩
    · obtain ⟨offset, rfl⟩ : ∃ offset, index = front.length + 1 + offset :=
        ⟨index - (front.length + 1), by omega⟩
      have place : front.length + 1 + offset - front.length = offset + 1 := by omega
      rw [List.getElem?_append_right (by omega), place, List.getElem?_cons_succ] at here
      refine .inr ⟨(front ++ stale).length + offset, ?_, .inr ?_⟩
      · rw [List.getElem?_append_right (Nat.le_add_right _ _), Nat.add_sub_cancel_left]
        exact here
      · simp only [List.length_append, List.length_cons]
        omega

/-- A node that stands at some position in what was made of a document is a text that was put in, or
it stood in the document, at a position that differs by what the parts before lost or gained. -/
theorem exists_source {cut : List Piece} {index : Nat} {node : String}
    (here : (cut.flatMap embedding.renewal)[index]? = some node) :
    (∃ piece ∈ cut, ∃ parameter, piece.parameter? = some parameter ∧
      node = embedding.text parameter) ∨
    ∃ origin done, done <+: cut ∧ (cut.flatMap Piece.nodes)[origin]? = some node ∧
      index + nodeCount done = origin + (done.flatMap embedding.renewal).length := by
  induction cut generalizing index with
  | nil => cases here
  | cons piece rest ih =>
    rw [List.flatMap_cons] at here
    by_cases inside : index < (embedding.renewal piece).length
    · rw [List.getElem?_append_left inside] at here
      rcases exists_source_in_part here with ⟨parameter, opens, put⟩ | ⟨origin, there, shift⟩
      · exact .inl ⟨piece, List.mem_cons_self .., parameter, opens, put⟩
      · have early : origin < piece.nodes.length := (List.getElem?_eq_some_iff.mp there).1
        have found : ((piece :: rest).flatMap Piece.nodes)[origin]? = some node := by
          rw [List.flatMap_cons, List.getElem?_append_left early, there]
        rcases shift with same | same
        · exact .inr ⟨origin, [], List.nil_prefix, found, congrArg (· + 0) same⟩
        · refine .inr ⟨origin, [piece], List.cons_prefix_cons.mpr ⟨rfl, List.nil_prefix⟩, found, ?_⟩
          simpa [nodeCount] using same
    · rw [List.getElem?_append_right (Nat.le_of_not_lt inside)] at here
      rcases ih here with ⟨block, member, put⟩ | ⟨origin, done, first, there, shift⟩
      · exact .inl ⟨block, List.mem_cons_of_mem _ member, put⟩
      · refine .inr ⟨piece.nodes.length + origin, piece :: done,
          List.cons_prefix_cons.mpr ⟨rfl, first⟩, ?_, ?_⟩
        · rw [List.flatMap_cons, List.getElem?_append_right (Nat.le_add_right _ _),
            Nat.add_sub_cancel_left]
          exact there
        · rw [nodeCount_cons, List.flatMap_cons, List.length_append]
          omega

end Embedding

/-- A missing end marker of a block, as opposed to one of a region. -/
def Failure.IsOpenBlock (failure : Failure) : Prop :=
  ∃ (kind : EmbedKind) (path : Path) (line : Nat), failure = .unterminated kind.directive path line

theorem not_isOpenBlock_of_io {α : Type} {path : Path} {result : Except IoError α}
    {failure : Failure} (failed : result.mapError (Failure.ofIo path) = .error failure) :
    ¬failure.IsOpenBlock := by
  cases result with
  | ok value => cases failed
  | error cause =>
    cases failed
    rintro ⟨kind, other, line, same⟩
    cases cause <;> cases same

theorem not_isOpenBlock_of_access {opener : Opener} {path : Path} {failure : Failure}
    (failed : (access opener path).outcome = .error failure) : ¬failure.IsOpenBlock := by
  rw [access, Run.outcome_note_bind, Run.outcome_ofExcept] at failed
  exact not_isOpenBlock_of_io failed

/-- Rules that change the indentation of nodes and nothing else. -/
def Rule.IsLayout : Rule → Prop
  | .dedent _ | .reindent _ => True
  | _ => False

theorem Rule.exists_apply_of_isLayout {rule : Rule} (layout : rule.IsLayout) (opener : Opener)
    (document : Path) (nodes : List String) :
    ∃ output, (rule.apply opener document nodes).outcome = .ok output := by
  cases rule with
  | mapfile _ _ _ | maprange _ _ _ | range _ => exact layout.elim
  | dedent lead => exact ⟨_, by rw [Rule.apply]; rfl⟩
  | reindent width =>
    rw [Rule.apply, rescaleIndent]
    dsimp only
    rw [Run.outcome_within]
    split <;> split <;> exact ⟨_, rfl⟩

theorem Rule.exists_applyAll_of_isLayout {rules : List Rule}
    (layout : ∀ rule ∈ rules, rule.IsLayout)
    (opener : Opener) (document : Path) (nodes : List String) :
    ∃ output, (Rule.applyAll opener rules document nodes).outcome = .ok output := by
  induction rules generalizing nodes with
  | nil => exact ⟨nodes, by rw [Rule.applyAll]; rfl⟩
  | cons rule rest ih =>
    rw [List.forall_mem_cons] at layout
    obtain ⟨middle, first⟩ := Rule.exists_apply_of_isLayout layout.1 opener document nodes
    obtain ⟨output, others⟩ := ih layout.2 middle
    refine ⟨output, ?_⟩
    rw [Rule.applyAll]
    exact Run.bind_eq_ok.mpr ⟨middle, first, others⟩

/-- A nested run fails while it opens or reads its file, or in its rules. -/
theorem not_isOpenBlock_of_processWith {opener : Opener} {transform : Transform} {path : Path}
    (inner : ∀ nodes failure, (transform path nodes).outcome = .error failure →
      ¬failure.IsOpenBlock) {failure : Failure}
    (failed : (processWith opener transform path).outcome = .error failure) :
    ¬failure.IsOpenBlock := by
  rw [processWith, Run.outcome_within, Run.outcome_note_bind, Run.bind_eq_error] at failed
  rcases failed with unopened | ⟨stream, -, failed⟩
  · exact not_isOpenBlock_of_access unopened
  rw [Run.bind_eq_error] at failed
  rcases failed with unread | ⟨nodes, -, failed⟩
  · rw [parse, Run.outcome_within, Run.outcome_ofExcept] at unread
    exact not_isOpenBlock_of_io unread
  rw [Run.bind_eq_error, Run.outcome_within] at failed
  rcases failed with broken | ⟨output, -, ended⟩
  · exact inner nodes failure broken
  · cases ended

/-- Looking for a region fails at one of its own markers. -/
theorem not_isOpenBlock_of_scan {filter : RegionFilter} {document : Path} {line : Nat}
    {state : RegionScan} {nodes : List String} {failure : Failure}
    (failed : (filter.scan document line state nodes).outcome = .error failure) :
    ¬failure.IsOpenBlock := by
  induction nodes generalizing line state with
  | nil =>
    cases state with
    | outside => cases failed
    | inside opened =>
      cases failed
      rintro ⟨kind, path, position, same⟩
      cases kind <;> cases same
  | cons node rest ih =>
    rw [RegionFilter.scan, Run.bind_eq_error] at failed
    rcases failed with broken | ⟨after, -, failed⟩
    · obtain ⟨parameter, fault, -, -, -, rfl⟩ := RegionFilter.step_eq_error.mp broken
      rintro ⟨kind, path, position, same⟩
      cases same
    · rw [Run.bind_eq_error] at failed
      rcases failed with later | ⟨others, -, ended⟩
      · exact ih later
      · cases ended

/-- Getting the text of a block fails with no missing end marker of a block, where the nested runs
do not embed. -/
theorem not_isOpenBlock_of_load {inner : List Rule} (layout : ∀ rule ∈ inner, rule.IsLayout)
    {opener : Opener} {kind : EmbedKind} {target : kind.Target} {failure : Failure}
    (failed : (kind.load opener inner target).outcome = .error failure) : ¬failure.IsOpenBlock := by
  have quiet : ∀ path nodes failure,
      (Rule.applyAll opener inner path nodes).outcome = .error failure → ¬failure.IsOpenBlock := by
    intro path nodes failure broken
    obtain ⟨output, went⟩ := Rule.exists_applyAll_of_isLayout layout opener path nodes
    rw [went] at broken
    cases broken
  cases kind with
  | file =>
    rw [EmbedKind.load, loadFile] at failed
    split at failed
    · rw [readWhole, Run.bind_eq_error] at failed
      rcases failed with unopened | ⟨stream, -, unread⟩
      · exact not_isOpenBlock_of_access unopened
      · exact not_isOpenBlock_of_io unread
    · exact not_isOpenBlock_of_processWith (quiet target) failed
  | region =>
    rw [EmbedKind.load, loadRegion] at failed
    refine not_isOpenBlock_of_processWith (fun nodes failure broken => ?_) failed
    rw [Run.bind_eq_error] at broken
    rcases broken with unmatched | ⟨others, -, later⟩
    · rw [filterRegion, Run.outcome_within, RegionFilter.extract] at unmatched
      exact not_isOpenBlock_of_scan unmatched
    · exact quiet target.1 others failure later

namespace EmbedRule

variable {rule first second : EmbedRule} {opener : Opener} {document : Path}

/-- A rule reports a missing end marker of a block at the start marker of the last block. -/
theorem start_of_open_block (layout : ∀ inner ∈ rule.inner, inner.IsLayout) {nodes : List String}
    {kind : EmbedKind} {path : Path} {line : Nat}
    (failed : (rule.toRule.apply opener document nodes).outcome =
      .error (.unterminated kind.directive path line)) :
    kind.directive = rule.kind.directive ∧ path = document ∧ 0 < line ∧
      ∃ start parameter, nodes[line - 1]? = some start ∧
        rule.markers.parameter? start = some parameter := by
  rw [outcome_apply] at failed
  have cuts := rule.markers.cuts_pieces nodes
  obtain ⟨position, ⟨before, piece, after, split, fault⟩, -⟩ := (renewAll_eq_error cuts).mp failed
  generalize reported : Failure.unterminated kind.directive path line = failure at fault
  cases fault with
  | parameter opens broken => cases reported
  | target asked missing =>
    exact (not_isOpenBlock_of_load layout missing ⟨kind, path, line, reported.symm⟩).elim
  | @ending start parameter body =>
    obtain ⟨directives, paths, lines⟩ := Failure.unterminated.inj reported
    refine ⟨directives, paths, by omega, start, parameter, ?_, ?_⟩
    · rw [lines, Nat.add_sub_cancel_left, Markers.getElem?_nodeCount split]
      rfl
    · rw [split] at cuts
      exact cuts.start_of_unclosed

/-- What the first of two rules leaves of a document, as the second rule gets to see it. -/
theorem processText_pair_eq_error {content : String} {failure : Failure} :
    (processText opener [first.toRule, second.toRule] document content).outcome = .error failure ↔
      (first.toRule.apply opener document (textLines content)).outcome = .error failure ∨
      ∃ nodes, (first.toRule.apply opener document (textLines content)).outcome = .ok nodes ∧
        (second.toRule.apply opener document nodes).outcome = .error failure := by
  rw [outcome_processText, applyAll_pair, ← Run.bind_eq_error]
  cases (first.toRule.apply opener document (textLines content) >>=
    second.toRule.apply opener document).outcome with
  | error cause => simp [Except.map]
  | ok nodes => simp [Except.map]

/-- The rules that a pipeline has without settings, or with settings that can be used. -/
def Accepted (rules : List Rule) : Prop :=
  rules = Rule.defaults ∨ ∃ settings : Settings, settings.rules = .ok rules

theorem isLayout_of_mem_fileInner {held : FileSection} : ∀ rule ∈ held.inner, rule.IsLayout := by
  unfold FileSection.inner
  split
  · exact List.forall_mem_nil _
  · exact List.forall_mem_singleton.mpr trivial

theorem isLayout_of_mem_regionInner {held : RegionSection} :
    ∀ rule ∈ held.inner, rule.IsLayout := by
  unfold RegionSection.inner
  rw [List.forall_mem_append]
  constructor
  · split
    · exact List.forall_mem_nil _
    · exact List.forall_mem_singleton.mpr trivial
  · split
    · exact List.forall_mem_nil _
    · exact List.forall_mem_singleton.mpr trivial

/-- Such rules embed first files and then regions, and their nested runs do not embed. -/
theorem Accepted.exists_pair {rules : List Rule} (accepted : Accepted rules) :
    ∃ first second : EmbedRule, rules = [first.toRule, second.toRule] ∧ first.kind = .file ∧
      second.kind = .region ∧ (∀ inner ∈ first.inner, inner.IsLayout) ∧
      ∀ inner ∈ second.inner, inner.IsLayout := by
  rcases accepted with rfl | ⟨settings, made⟩
  · exact ⟨fileRule, regionRule, rfl, rfl, rfl, List.forall_mem_nil _, List.forall_mem_nil _⟩
  · rw [Settings.rules] at made
    cases found : settings.markers with
    | error failure =>
      rw [found] at made
      cases made
    | ok both =>
      rw [found] at made
      cases made
      exact ⟨⟨.file, both.1, settings.mapfile.defaultSkip, settings.mapfile.inner⟩,
        ⟨.region, both.2, settings.maprange.defaultSkip, settings.maprange.inner⟩, rfl, rfl, rfl,
        isLayout_of_mem_fileInner, isLayout_of_mem_regionInner⟩

/-- A node of what the first rule left is a text that it put in, or a line of the document that is
off by what the blocks in front of it lost or gained. -/
theorem exists_source_line {content : String} {nodes : List String}
    (went : (first.toRule.apply opener document (textLines content)).outcome = .ok nodes)
    {line : Nat} (counted : 0 < line) {node : String} (here : nodes[line - 1]? = some node) :
    node ∈ (first.embedding opener document).texts (textLines content) ∨
    ∃ physical done, 0 < physical ∧ done <+: first.markers.pieces (textLines content) ∧
      (textLines content)[physical - 1]? = some node ∧
      line + nodeCount done =
        physical + (done.flatMap (first.embedding opener document).renewal).length := by
  obtain ⟨-, rfl⟩ := apply_eq_ok.mp went
  rcases Embedding.exists_source here with ⟨piece, member, parameter, opens, rfl⟩ |
    ⟨origin, done, part, there, shift⟩
  · exact .inl (List.mem_map_of_mem (Markers.mem_parameters member opens))
  · rw [Markers.nodes_pieces] at there
    exact .inr ⟨origin + 1, done, origin.succ_pos, part, there, by omega⟩

/-- A missing end marker of a block is reported for the document. The first rule gives the line of
the start marker. The second rule may have found the marker in an embedded text; otherwise the line
it gives differs from that of the marker by what the blocks in front lost or gained. So where these
keep their length and no embedded text has a marker, it gives the right line as well. -/
theorem line_of_open_block (opener : Opener) (rules : List Rule) (accepted : Accepted rules)
    (document : Path) (content : String) (kind : EmbedKind) (path : Path) (line : Nat)
    (failed : (processText opener rules document content).outcome =
      .error (.unterminated kind.directive path line)) :
    ∃ first second : EmbedRule, rules = [first.toRule, second.toRule] ∧ path = document ∧
      (kind = .file → ∃ start parameter, (textLines content)[line - 1]? = some start ∧
        first.markers.parameter? start = some parameter) ∧
      (kind = .region → ∃ start parameter, second.markers.parameter? start = some parameter ∧
        (start ∈ (first.embedding opener document).texts (textLines content) ∨
          ∃ physical done, 0 < physical ∧ done <+: first.markers.pieces (textLines content) ∧
            (textLines content)[physical - 1]? = some start ∧
            line + nodeCount done =
              physical + (done.flatMap (first.embedding opener document).renewal).length) ∧
        ((∀ piece ∈ first.markers.pieces (textLines content),
            (first.embedding opener document).Level piece) →
          (∀ text ∈ (first.embedding opener document).texts (textLines content),
            second.markers.parameter? text = none) →
          (textLines content)[line - 1]? = some start)) := by
  obtain ⟨first, second, rfl, files, regions, layout, later_layout⟩ := accepted.exists_pair
  refine ⟨first, second, rfl, ?_⟩
  rcases processText_pair_eq_error.mp failed with early | ⟨nodes, went, late⟩
  · obtain ⟨same, rfl, -, found⟩ := start_of_open_block layout early
    rw [files] at same
    refine ⟨rfl, fun _ => found, ?_⟩
    rintro rfl
    cases same
  · obtain ⟨same, rfl, counted, start, parameter, here, opening⟩ :=
      start_of_open_block later_layout late
    rw [regions] at same
    refine ⟨rfl, ?_, fun _ => ?_⟩
    · rintro rfl
      cases same
    have source := exists_source_line went counted here
    refine ⟨start, parameter, opening, source, fun level silent => ?_⟩
    rcases source with put | ⟨physical, done, -, part, there, shift⟩
    · rw [silent start put] at opening
      cases opening
    · have kept := Embedding.length_flatMap_renewal_of_level fun piece member =>
        level piece (part.subset member)
      rw [kept, Nat.add_right_cancel_iff] at shift
      rw [shift]
      exact there

/-- A document with a block that has never been filled, and an unclosed one behind it. -/
def emptyThenOpen : String := "mapfile:a\nmapfile.end\nmaprange:b,r\n"

def filledThenOpen : String := "mapfile:a\nold\nmapfile.end\nmaprange:b,r\n"

def renewedThenOpen : List String := ["mapfile:a\n", "x\n", "mapfile.end\n", "maprange:b,r\n"]

theorem renewedThenOpen_fails :
    (regionRule.toRule.apply oneLineFile ⟨"d"⟩ renewedThenOpen).outcome =
      .error (.unterminated .maprange ⟨"d"⟩ 4) := by
  have cut : regionRule.markers.pieces renewedThenOpen =
      [.plain "mapfile:a\n", .plain "x\n", .plain "mapfile.end\n",
        .unclosed "maprange:b,r\n" "b,r" []] := by
    refine Markers.pieces_eq_iff.mpr ⟨?_, by decide⟩
    simp only [regionRule, Markers.Cuts, Markers.parameter?_standard, Markers.isStop_standard]
    decide
  rw [outcome_apply, cut]
  with_unfolding_all rfl

theorem pieces_thenOpen {content : String} {body : List String}
    (lines : textLines content = "mapfile:a\n" :: body ++ ["mapfile.end\n", "maprange:b,r\n"])
    (inside : ∀ line ∈ body, fileRule.markers.isStop line = false) :
    fileRule.markers.pieces (textLines content) =
      [.block "mapfile:a\n" "a" body "mapfile.end\n", .plain "maprange:b,r\n"] := by
  have outside : fileRule.markers.parameter? "maprange:b,r\n" = none :=
    (Markers.parameter?_standard .mapfile _).trans (by decide)
  have last : fileRule.markers.pieces ["maprange:b,r\n"] = [.plain "maprange:b,r\n"] :=
    Markers.pieces_eq_iff.mpr ⟨⟨outside, trivial⟩, rfl⟩
  rw [lines, ← last]
  exact Markers.pieces_block_append block_opening inside block_closing _

/-- Whatever stood in the block, the second of the default rules is left with a marker on line 4. -/
theorem thenOpen_fails {content : String} {body : List String}
    (pieces : fileRule.markers.pieces (textLines content) =
      [.block "mapfile:a\n" "a" body "mapfile.end\n", .plain "maprange:b,r\n"]) :
    (processText oneLineFile Rule.defaults ⟨"d"⟩ content).outcome =
      .error (.unterminated .maprange ⟨"d"⟩ 4) := by
  have text : (fileRule.embedding oneLineFile ⟨"d"⟩).text? "a" = some "x\n" := captioned_text
  have middle : (fileRule.toRule.apply oneLineFile ⟨"d"⟩ (textLines content)).outcome =
      .ok renewedThenOpen := by
    refine apply_eq_ok.mpr ⟨?_, ?_⟩
    · simp [pieces, Embedding.Ready, text]
    · rw [pieces, List.flatMap_cons, List.flatMap_singleton,
        Embedding.renewal_of_budget (fileRule_budget _), Embedding.text, text]
      rfl
  rw [defaults_eq]
  exact processText_pair_eq_error.mpr (.inr ⟨_, middle, renewedThenOpen_fails⟩)

/-- The block in front has grown by a line, so the line behind the last one of the document is
reported. -/
theorem emptyThenOpen_reported :
    (processText oneLineFile Rule.defaults ⟨"d"⟩ emptyThenOpen).outcome =
      .error (.unterminated .maprange ⟨"d"⟩ 4) ∧
    (textLines emptyThenOpen)[4 - 1]? = none :=
  ⟨thenOpen_fails (pieces_thenOpen (by decide) (List.forall_mem_nil _)),
    by decide⟩

theorem toRule_injective {first second : EmbedRule} (same : first.toRule = second.toRule) :
    first = second := by
  obtain ⟨kind, markers, skip, inner⟩ := first
  obtain ⟨other, markers', skip', inner'⟩ := second
  cases kind <;> cases other <;> cases same <;> rfl

theorem pieces_filledThenOpen : fileRule.markers.pieces (textLines filledThenOpen) =
    [.block "mapfile:a\n" "a" ["old\n"] "mapfile.end\n", .plain "maprange:b,r\n"] :=
  pieces_thenOpen (by decide) (List.forall_mem_singleton.mpr
    ((Markers.isStop_standard .mapfile _).trans (by decide)))

theorem filledThenOpen_reported :
    (processText oneLineFile Rule.defaults ⟨"d"⟩ filledThenOpen).outcome =
      .error (.unterminated .maprange ⟨"d"⟩ 4) ∧
    ∃ second : EmbedRule, ∃ start parameter, second.markers.parameter? start = some parameter ∧
      (textLines filledThenOpen)[4 - 1]? = some start := by
  have failed : (processText oneLineFile Rule.defaults ⟨"d"⟩ filledThenOpen).outcome =
      .error (.unterminated EmbedKind.region.directive ⟨"d"⟩ 4) :=
    thenOpen_fails pieces_filledThenOpen
  refine ⟨failed, ?_⟩
  obtain ⟨first, second, same, -, -, region⟩ := line_of_open_block oneLineFile Rule.defaults
    (.inl rfl) ⟨"d"⟩ filledThenOpen .region ⟨"d"⟩ 4 failed
  obtain ⟨start, parameter, opening, -, right⟩ := region rfl
  rw [defaults_eq] at same
  obtain rfl : fileRule = first := toRule_injective (List.cons.inj same).1
  obtain rfl : regionRule = second :=
    toRule_injective (List.cons.inj (List.cons.inj same).2).1
  refine ⟨regionRule, start, parameter, opening, right ?_ ?_⟩
  · rw [pieces_filledThenOpen, List.forall_mem_cons, List.forall_mem_singleton]
    refine ⟨?_, trivial⟩
    rw [Embedding.Level, fileRule_budget]
    rfl
  · have asked : (fileRule.embedding oneLineFile ⟨"d"⟩).markers.parameters
        (textLines filledThenOpen) = ["a"] :=
      congrArg (List.filterMap Piece.parameter?) pieces_filledThenOpen
    rw [Embedding.texts, asked, List.map_singleton, oneLineFile_text, List.forall_mem_singleton]
    exact line_unmarked

end EmbedRule

end Transclude
