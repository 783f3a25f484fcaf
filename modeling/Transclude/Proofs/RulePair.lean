import Transclude.Proofs.SecondRun

/-!
Two embedding rules, one after the other, run again on what they wrote. Where no text that is put in
looks like a marker of either rule, a block of the first rule is never cut in half by the second: it
stands next to the blocks of the second or as a whole inside one. The next run finds the same blocks,
and where nothing is skipped it writes the same text.
-/

namespace Transclude

/-- A node that is no marker of a block. -/
def Markers.Silent (markers : Markers) (node : String) : Prop :=
  markers.parameter? node = none ∧ markers.isStop node = false

/-- Which of the markers of two rules a line looks like. -/
def Markers.marks (first second : Markers) (line : String) : List Bool :=
  [(first.parameter? line).isSome, first.isStop line, (second.parameter? line).isSome,
    second.isStop line]

theorem Markers.silent_of_marks {first second : Markers} {line : String}
    (single : (marks first second line).count true ≤ 1)
    (marked : (first.parameter? line).isSome = true ∨ first.isStop line = true) :
    second.Silent line := by
  have none : second.parameter? line = none ↔ (second.parameter? line).isSome = false := by simp
  rw [Silent, none]
  revert single marked
  rw [marks]
  cases (first.parameter? line).isSome <;> cases first.isStop line <;>
    cases (second.parameter? line).isSome <;> cases second.isStop line <;> simp

namespace Embedding

variable {Target : Type}

/-- What is put into blocks with the given parameter has no marker, as a whole or on any line, and
these blocks keep nothing. -/
def Inert (embedding : Embedding Target) (first second : Markers) (parameter : String) : Prop :=
  embedding.budget parameter = 0 ∧
    ∀ node ∈ embedding.text parameter :: textLines (embedding.text parameter),
      first.Silent node ∧ second.Silent node

theorem flatMap_renewal_plain (embedding : Embedding Target) (nodes : List String) :
    (nodes.map .plain).flatMap embedding.renewal = nodes := by
  rw [List.flatMap_map]
  exact List.flatMap_singleton' nodes

theorem renewal_of_budget {embedding : Embedding Target} {start parameter stop : String}
    (budget : embedding.budget parameter = 0) (body : List String) :
    embedding.renewal (.block start parameter body stop) =
      [start, embedding.text parameter, stop] := by
  simp [renewal, renewed, keptTail, budget]

theorem roomy_of_budget {embedding : Embedding Target} {piece : Piece}
    (budget : ∀ parameter, piece.parameter? = some parameter → embedding.budget parameter = 0) :
    embedding.Roomy piece := by
  cases piece with
  | plain _ | unclosed _ _ _ => trivial
  | block start parameter body stop =>
    rw [Roomy, budget parameter rfl]
    exact Nat.zero_le _

end Embedding

/-- Parts of a document under two rules: a part of the first rule outside of the blocks of the
second, or a block of the second rule around some parts of the first. -/
inductive Group where
  | kept (piece : Piece)
  | block (start parameter : String) (inner : List Piece) (stop : String)

namespace Group

def pieces : Group → List Piece
  | kept piece => [piece]
  | block start _ inner stop => .plain start :: inner ++ [.plain stop]

variable {Target Other : Type} (first : Embedding Target) (second : Embedding Other)

def outer : Group → List Piece
  | kept piece => (first.renewal piece).map .plain
  | block start parameter inner stop =>
    [.block start parameter (inner.flatMap first.renewal) stop]

/-- A group as the next run reads it. -/
def reread : Group → Group
  | kept piece => kept (first.reread piece)
  | block start parameter _ stop =>
    block start parameter ((textLines (second.text parameter)).map .plain) stop

/-- Together, the second rule sees what the first rule made of its parts. -/
theorem flatMap_nodes_outer (group : Group) :
    (group.outer first).flatMap Piece.nodes = group.pieces.flatMap first.renewal := by
  cases group with
  | kept piece => simp [outer, pieces, List.flatMap_map, Piece.nodes]
  | block start parameter inner stop => simp [outer, pieces, Piece.nodes, Embedding.renewal]

/-- A part of the first rule that the second cannot cut in half. -/
def Apart (piece : Piece) : Prop :=
  (∃ node, piece = .plain node) ∨ ∀ node ∈ first.renewal piece, second.markers.Silent node

/-- A part of the first rule that ends a block of the second. -/
def closes : Piece → Bool
  | .plain node => second.markers.isStop node
  | _ => false

variable {first second}

theorem clean_of_not_closes {piece : Piece} (apart : Apart first second piece)
    (inside : closes second piece = false) :
    ∀ node ∈ first.renewal piece, second.markers.isStop node = false := by
  rcases apart with ⟨node, rfl⟩ | silent
  · exact List.forall_mem_singleton.mpr inside
  · exact fun node member => (silent node member).2

/-- A block of the second rule holds the parts of the first up to the next that ends it. -/
theorem exists_inner {cut : List Piece} (apart : ∀ piece ∈ cut, Apart first second piece) :
    (∀ node ∈ cut.flatMap first.renewal, second.markers.isStop node = false) ∨
      ∃ inner stop after, cut = inner ++ .plain stop :: after ∧
        (∀ node ∈ inner.flatMap first.renewal, second.markers.isStop node = false) ∧
        second.markers.isStop stop = true := by
  induction cut with
  | nil => exact .inl (List.forall_mem_nil _)
  | cons piece rest ih =>
    rw [List.forall_mem_cons] at apart
    cases ending : closes second piece with
    | true =>
      cases piece with
      | plain node => exact .inr ⟨[], node, rest, rfl, List.forall_mem_nil _, ending⟩
      | block _ _ _ _ | unclosed _ _ _ => cases ending
    | false =>
      have clean := clean_of_not_closes apart.1 ending
      rcases ih apart.2 with all | ⟨inner, stop, after, rfl, inside, closing⟩
      · refine .inl ?_
        rw [List.flatMap_cons, List.forall_mem_append]
        exact ⟨clean, all⟩
      · refine .inr ⟨piece :: inner, stop, after, rfl, ?_, closing⟩
        rw [List.flatMap_cons, List.forall_mem_append]
        exact ⟨clean, inside⟩

/-- A part that does not just pass the second rule by opens one of its blocks. -/
theorem exists_opening {piece : Piece} (apart : Apart first second piece)
    (inside : ¬∀ node ∈ first.renewal piece, second.markers.parameter? node = none) :
    ∃ node parameter, piece = .plain node ∧ second.markers.parameter? node = some parameter := by
  rcases apart with ⟨node, rfl⟩ | silent
  · cases opening : second.markers.parameter? node with
    | none => exact (inside (List.forall_mem_singleton.mpr opening)).elim
    | some parameter => exact ⟨node, parameter, rfl, opening⟩
  · exact absurd (fun node member => (silent node member).1) inside

/-- The parts of the first rule fall into groups that the second rule does not cut in half. -/
theorem exists_groups {cut : List Piece} (apart : ∀ piece ∈ cut, Apart first second piece)
    (closed : ∀ piece ∈ second.markers.pieces (cut.flatMap first.renewal), piece.IsClosed) :
    ∃ groups : List Group, groups.flatMap pieces = cut ∧
      groups.flatMap (outer first) = second.markers.pieces (cut.flatMap first.renewal) := by
  induction size : cut.length using Nat.strongRecOn generalizing cut with
  | ind length ih =>
    cases cut with
    | nil => exact ⟨[], rfl, by rw [List.flatMap_nil, List.flatMap_nil, Markers.pieces]⟩
    | cons piece rest =>
      rw [List.forall_mem_cons] at apart
      rw [List.length_cons] at size
      rw [List.flatMap_cons] at closed ⊢
      by_cases outside : ∀ node ∈ first.renewal piece, second.markers.parameter? node = none
      · rw [Markers.pieces_plain_append outside, List.forall_mem_append] at closed
        obtain ⟨groups, parts, cut⟩ := ih rest.length (by omega) apart.2 closed.2 rfl
        refine ⟨.kept piece :: groups, ?_, ?_⟩
        · rw [List.flatMap_cons, parts, pieces, List.singleton_append]
        · rw [List.flatMap_cons, cut, outer, Markers.pieces_plain_append outside]
      · obtain ⟨node, parameter, rfl, opening⟩ := exists_opening apart.1 outside
        have start : first.renewal (.plain node) = [node] := rfl
        rw [start, List.singleton_append] at closed ⊢
        rcases exists_inner apart.2 with all | ⟨inner, stop, after, rfl, inside, closing⟩
        · rw [Markers.pieces_unclosed opening all, List.forall_mem_singleton] at closed
          exact closed.elim
        · have nodes : node :: (inner ++ .plain stop :: after).flatMap first.renewal =
              node :: inner.flatMap first.renewal ++ stop :: after.flatMap first.renewal := by
            rw [List.flatMap_append, List.flatMap_cons]
            rfl
          rw [nodes, Markers.pieces_block_append opening inside closing,
            List.forall_mem_cons] at closed
          have shorter : after.length < length := by
            simp only [List.length_append, List.length_cons] at size
            omega
          have later : ∀ piece ∈ after, Apart first second piece := fun piece member =>
            apart.2 piece (List.mem_append_right _ (List.mem_cons_of_mem _ member))
          obtain ⟨groups, parts, cut⟩ := ih after.length shorter later closed.2 rfl
          refine ⟨.block node parameter inner stop :: groups, ?_, ?_⟩
          · rw [List.flatMap_cons, parts, pieces]
            simp
          · rw [nodes, Markers.pieces_block_append opening inside closing, List.flatMap_cons, cut]
            rfl

variable (first second) in
/-- A group that both rules find and bring up to date. -/
structure Sound (group : Group) : Prop where
  ready : ∀ piece ∈ group.pieces, first.Ready piece
  fits : ∀ piece ∈ group.pieces, first.markers.Fits piece
  outer_ready : ∀ piece ∈ group.outer first, second.Ready piece
  outer_fits : ∀ piece ∈ group.outer first, second.markers.Fits piece

variable (first second) in
/-- A group of which neither rule keeps anything, and in which no text looks like a marker. -/
structure Inert (group : Group) : Prop where
  inner : ∀ piece ∈ group.pieces, ∀ parameter, piece.parameter? = some parameter →
    first.Inert first.markers second.markers parameter
  outer : ∀ piece ∈ group.outer first, ∀ parameter, piece.parameter? = some parameter →
    second.Inert first.markers second.markers parameter

/-- Both rules find a group again and bring it up to date. -/
theorem Sound.reread {group : Group} (sound : group.Sound first second)
    (inert : group.Inert first second) : (group.reread first second).Sound first second := by
  obtain ⟨ready, fits, outer_ready, outer_fits⟩ := sound
  cases group with
  | kept piece =>
    have inner := inert.inner piece (List.mem_singleton_self _)
    have same : (Group.kept (first.reread piece)).outer first = (Group.kept piece).outer first :=
      congrArg (List.map Piece.plain) (Embedding.renewal_reread
        (Embedding.roomy_of_budget fun parameter opens => (inner parameter opens).1))
    refine ⟨?_, ?_, same ▸ outer_ready, same ▸ outer_fits⟩
    · rw [pieces, List.forall_mem_singleton] at ready
      exact List.forall_mem_singleton.mpr (Embedding.ready_reread.mpr ready)
    · rw [pieces, List.forall_mem_singleton] at fits
      refine List.forall_mem_singleton.mpr (Embedding.fits_reread fits ?_)
      intro parameter opens line member
      exact ((inner parameter opens).2 line (List.mem_cons_of_mem _ member)).1.2
  | block start parameter inner stop =>
    have silent := (inert.outer _ (List.mem_singleton_self _) parameter rfl).2
    rw [List.forall_mem_cons] at silent
    simp only [pieces, List.cons_append, List.forall_mem_cons, List.forall_mem_append] at fits
    obtain ⟨opening, -, closing⟩ := fits
    rw [outer, List.forall_mem_singleton] at outer_ready outer_fits
    refine ⟨?_, ?_, List.forall_mem_singleton.mpr outer_ready, List.forall_mem_singleton.mpr ?_⟩
    · simp only [Group.reread, pieces, List.cons_append, List.forall_mem_cons,
        List.forall_mem_append, List.forall_mem_map]
      exact ⟨trivial, fun _ _ => trivial, trivial, List.forall_mem_nil _⟩
    · simp only [Group.reread, pieces, List.cons_append, List.forall_mem_cons,
        List.forall_mem_append, List.forall_mem_map]
      exact ⟨opening, fun line member => (silent.2 line member).1.1, closing⟩
    · rw [Embedding.flatMap_renewal_plain]
      exact ⟨outer_fits.1, fun line member => (silent.2 line member).2.2, outer_fits.2.2⟩

/-- Read again, a group comes out as it did before. -/
theorem flatMap_renewal_reread {group : Group} (inert : group.Inert first second) :
    ((group.reread first second).outer first).flatMap second.renewal =
      (group.outer first).flatMap second.renewal := by
  cases group with
  | kept piece =>
    have inner := inert.inner piece (List.mem_singleton_self _)
    have room : first.Roomy piece :=
      Embedding.roomy_of_budget fun parameter opens => (inner parameter opens).1
    rw [reread, outer, outer, Embedding.renewal_reread room]
  | block start parameter inner stop =>
    have budget := (inert.outer _ (List.mem_singleton_self _) parameter rfl).1
    rw [reread, outer, outer, List.flatMap_singleton, List.flatMap_singleton,
      Embedding.renewal_of_budget budget, Embedding.renewal_of_budget budget]

/-- The lines of what came out of a group are the group as the next run reads it. -/
theorem flatMap_textLines_outer {group : Group} (inert : group.Inert first second)
    (lines : ∀ piece ∈ group.pieces, ∀ node ∈ piece.nodes, IsLine node) :
    ((group.outer first).flatMap second.renewal).flatMap textLines =
      (group.reread first second).pieces.flatMap Piece.nodes := by
  cases group with
  | kept piece =>
    rw [outer, Embedding.flatMap_renewal_plain, reread, pieces, List.flatMap_singleton]
    exact Embedding.flatMap_textLines_renewal (lines piece (List.mem_singleton_self _))
  | block start parameter inner stop =>
    have budget := (inert.outer _ (List.mem_singleton_self _) parameter rfl).1
    have opening : IsLine start := lines (.plain start) (by simp [pieces]) start (by simp [Piece.nodes])
    have closing : IsLine stop := lines (.plain stop) (by simp [pieces]) stop (by simp [Piece.nodes])
    rw [IsLine] at opening closing
    rw [outer, List.flatMap_singleton, Embedding.renewal_of_budget budget]
    simp [reread, pieces, List.flatMap_map, Piece.nodes, opening, closing]

/-- The lines of a document that both rules brought up to date are the groups as the next run reads
them. -/
theorem textLines_groups {groups : List Group} {content : String}
    (sound : ∀ group ∈ groups, group.Sound first second)
    (inert : ∀ group ∈ groups, group.Inert first second)
    (lines : textLines content = (groups.flatMap pieces).flatMap Piece.nodes) :
    textLines (render ((groups.flatMap (outer first)).flatMap second.renewal)) =
      ((groups.map (reread first second)).flatMap pieces).flatMap Piece.nodes := by
  have whole : Joined ((groups.flatMap pieces).flatMap Piece.nodes) :=
    lines ▸ joined_textLines content
  have middle : (groups.flatMap (outer first)).flatMap Piece.nodes =
      (groups.flatMap pieces).flatMap first.renewal := by
    rw [List.flatMap_assoc, List.flatMap_assoc]
    exact List.flatMap_congr fun group _ => flatMap_nodes_outer first group
  have joined : Joined ((groups.flatMap (outer first)).flatMap second.renewal) := by
    refine Embedding.joined_renewal ?_ ?_
    · exact List.forall_mem_flatMap.mpr fun group member => (sound group member).outer_ready
    · rw [middle]
      refine Embedding.joined_renewal ?_ whole
      exact List.forall_mem_flatMap.mpr fun group member => (sound group member).ready
  have is_line : ∀ group ∈ groups, ∀ piece ∈ group.pieces, ∀ node ∈ piece.nodes, IsLine node := by
    intro group member piece inside node here
    have line : node ∈ textLines content := by
      rw [lines]
      exact List.mem_flatMap.mpr ⟨piece, List.mem_flatMap.mpr ⟨group, member, inside⟩, here⟩
    exact isLine_of_mem_textLines line
  calc
    _ = ((groups.flatMap (outer first)).flatMap second.renewal).flatMap textLines :=
      textLines_render joined
    _ = groups.flatMap fun group =>
        ((group.outer first).flatMap second.renewal).flatMap textLines := by
      simp only [List.flatMap_assoc]
    _ = groups.flatMap fun group =>
        (group.reread first second).pieces.flatMap Piece.nodes :=
      List.flatMap_congr fun group member =>
        flatMap_textLines_outer (inert group member) (is_line group member)
    _ = _ := by simp only [List.flatMap_assoc, List.flatMap_map]

end Group

namespace EmbedRule

variable {first second : EmbedRule} {opener : Opener} {document : Path}

/-- A pipeline of two embedding rules succeeds when all parts are ready that the first rule sees in
the document, and all that the second sees afterwards. -/
theorem processText_pair {content output : String} :
    (processText opener [first.toRule, second.toRule] document content).outcome = .ok output ↔
      (∀ piece ∈ first.markers.pieces (textLines content),
        (first.embedding opener document).Ready piece) ∧
      (∀ piece ∈ second.markers.pieces ((first.markers.pieces (textLines content)).flatMap
        (first.embedding opener document).renewal), (second.embedding opener document).Ready piece) ∧
      output = render ((second.markers.pieces ((first.markers.pieces (textLines content)).flatMap
        (first.embedding opener document).renewal)).flatMap
          (second.embedding opener document).renewal) := by
  rw [processText_eq_ok, applyAll_pair]
  simp only [Run.bind_eq_ok, apply_eq_ok]
  constructor
  · rintro ⟨_, ⟨_, ⟨ready, rfl⟩, later, rfl⟩, rfl⟩
    exact ⟨ready, later, rfl⟩
  · rintro ⟨ready, later, rfl⟩
    exact ⟨_, ⟨_, ⟨ready, rfl⟩, later, rfl⟩, rfl⟩

/-- Two rules that can be run again on what they make of a document: no line of the document looks
like two of their markers, nothing is skipped, and no text that is put in looks like a marker. -/
structure Repeatable (first second : EmbedRule) (opener : Opener) (document : Path)
    (content : String) : Prop where
  single : ∀ line ∈ textLines content,
    (Markers.marks first.markers second.markers line).count true ≤ 1
  inert : ∀ parameter ∈ first.markers.parameters (textLines content),
    (first.embedding opener document).Inert first.markers second.markers parameter
  later_inert : ∀ nodes,
    (first.toRule.apply opener document (textLines content)).outcome = .ok nodes →
      ∀ parameter ∈ second.markers.parameters nodes,
        (second.embedding opener document).Inert first.markers second.markers parameter

/-- The second rule cuts no block of the first in half. -/
theorem Repeatable.apart {content : String}
    (repeatable : Repeatable first second opener document content)
    (ready : ∀ piece ∈ first.markers.pieces (textLines content),
      (first.embedding opener document).Ready piece) :
    ∀ piece ∈ first.markers.pieces (textLines content),
      Group.Apart (first.embedding opener document) (second.embedding opener document) piece := by
  intro piece member
  have fits := (Markers.cuts_iff_fits fun piece member => (ready piece member).isClosed).mp
    (first.markers.cuts_pieces (textLines content)) piece member
  have lines : ∀ node ∈ piece.nodes, node ∈ textLines content := fun node inside =>
    first.markers.nodes_pieces (textLines content) ▸ List.mem_flatMap.mpr ⟨piece, member, inside⟩
  cases piece with
  | plain node => exact .inl ⟨node, rfl⟩
  | unclosed start parameter body => exact (ready _ member).elim
  | block start parameter body stop =>
    obtain ⟨budget, silent⟩ := repeatable.inert parameter (Markers.mem_parameters member rfl)
    obtain ⟨opening, -, closing⟩ := fits
    rw [Piece.nodes, List.forall_mem_append, List.forall_mem_cons, List.forall_mem_singleton] at lines
    have start_silent : second.markers.Silent start := by
      refine Markers.silent_of_marks (repeatable.single start lines.1.1) (.inl ?_)
      exact Option.isSome_iff_exists.mpr ⟨parameter, opening⟩
    have stop_silent : second.markers.Silent stop :=
      Markers.silent_of_marks (repeatable.single stop lines.2) (.inr closing)
    refine .inr ?_
    rw [Embedding.renewal_of_budget budget, List.forall_mem_cons, List.forall_mem_cons,
      List.forall_mem_singleton]
    exact ⟨start_silent, (silent _ (List.mem_cons_self ..)).2, stop_silent⟩

/-- Groups that both rules find are brought up to date one by one. -/
theorem processText_of_sound {groups : List Group} {content : String}
    (sound : ∀ group ∈ groups,
      group.Sound (first.embedding opener document) (second.embedding opener document))
    (lines : textLines content = (groups.flatMap Group.pieces).flatMap Piece.nodes) :
    (processText opener [first.toRule, second.toRule] document content).outcome =
      .ok (render ((groups.flatMap (Group.outer (first.embedding opener document))).flatMap
        (second.embedding opener document).renewal)) := by
  have ready : ∀ piece ∈ groups.flatMap Group.pieces,
      (first.embedding opener document).Ready piece :=
    List.forall_mem_flatMap.mpr fun group member => (sound group member).ready
  have cut : first.markers.pieces (textLines content) = groups.flatMap Group.pieces := by
    rw [lines]
    refine Markers.pieces_of_cuts ((Markers.cuts_iff_fits ?_).mpr ?_)
    · exact fun piece member => (ready piece member).isClosed
    · exact List.forall_mem_flatMap.mpr fun group member => (sound group member).fits
  have outer_ready : ∀ piece ∈ groups.flatMap (Group.outer (first.embedding opener document)),
      (second.embedding opener document).Ready piece :=
    List.forall_mem_flatMap.mpr fun group member => (sound group member).outer_ready
  have outer_cut : second.markers.pieces ((groups.flatMap Group.pieces).flatMap
      (first.embedding opener document).renewal) =
      groups.flatMap (Group.outer (first.embedding opener document)) := by
    refine Markers.pieces_eq_iff.mpr ⟨(Markers.cuts_iff_fits ?_).mpr ?_, ?_⟩
    · exact fun piece member => (outer_ready piece member).isClosed
    · exact List.forall_mem_flatMap.mpr fun group member => (sound group member).outer_fits
    · rw [List.flatMap_assoc, List.flatMap_assoc]
      exact List.flatMap_congr fun group _ => Group.flatMap_nodes_outer _ group
  refine processText_pair.mpr ?_
  rw [cut, outer_cut]
  exact ⟨ready, outer_ready, rfl⟩

/-- A document that two repeatable rules bring up to date consists of groups that both find. -/
theorem exists_sound_groups {content output : String}
    (went : (processText opener [first.toRule, second.toRule] document content).outcome =
      .ok output)
    (repeatable : Repeatable first second opener document content) :
    ∃ groups : List Group,
      (∀ group ∈ groups,
        group.Sound (first.embedding opener document) (second.embedding opener document)) ∧
      (∀ group ∈ groups,
        group.Inert (first.embedding opener document) (second.embedding opener document)) ∧
      textLines content = (groups.flatMap Group.pieces).flatMap Piece.nodes ∧
      output = render ((groups.flatMap (Group.outer (first.embedding opener document))).flatMap
        (second.embedding opener document).renewal) := by
  obtain ⟨ready, later_ready, rfl⟩ := processText_pair.mp went
  have closed := fun piece member => (ready piece member).isClosed
  have later_closed := fun piece member => (later_ready piece member).isClosed
  have fits := (Markers.cuts_iff_fits closed).mp (first.markers.cuts_pieces _)
  have later_fits := (Markers.cuts_iff_fits later_closed).mp (second.markers.cuts_pieces _)
  obtain ⟨groups, parts, outers⟩ := Group.exists_groups (repeatable.apart ready) later_closed
  have inside : ∀ group ∈ groups, ∀ piece ∈ group.pieces,
      piece ∈ first.markers.pieces (textLines content) := fun group member piece here =>
    parts ▸ List.mem_flatMap.mpr ⟨group, member, here⟩
  have later_inside : ∀ group ∈ groups, ∀ piece ∈ group.outer (first.embedding opener document),
      piece ∈ second.markers.pieces ((first.markers.pieces (textLines content)).flatMap
        (first.embedding opener document).renewal) := fun group member piece here =>
    outers ▸ List.mem_flatMap.mpr ⟨group, member, here⟩
  refine ⟨groups, fun group member => ?_, fun group member => ?_, ?_, ?_⟩
  · exact {
      ready := fun piece here => ready piece (inside group member piece here)
      fits := fun piece here => fits piece (inside group member piece here)
      outer_ready := fun piece here => later_ready piece (later_inside group member piece here)
      outer_fits := fun piece here => later_fits piece (later_inside group member piece here) }
  · exact {
      inner := fun piece here parameter opens => repeatable.inert parameter
        (Markers.mem_parameters (inside group member piece here) opens)
      outer := fun piece here parameter opens =>
        repeatable.later_inert _ (apply_eq_ok.mpr ⟨ready, rfl⟩) parameter
          (Markers.mem_parameters (later_inside group member piece here) opens) }
  · rw [parts, Markers.nodes_pieces]
  · rw [outers]
    rfl

/-- Where neither rule skips anything and no marker is hidden in what they put in, running them again
changes nothing. -/
theorem processText_again_of_repeatable (first second : EmbedRule) (opener : Opener)
    (document : Path) (content output : String)
    (went : (processText opener [first.toRule, second.toRule] document content).outcome =
      .ok output)
    (repeatable : Repeatable first second opener document content) :
    (processText opener [first.toRule, second.toRule] document output).outcome = .ok output := by
  obtain ⟨groups, sound, inert, lines, rfl⟩ := exists_sound_groups went repeatable
  have again_sound : ∀ group ∈ groups.map (Group.reread (first.embedding opener document)
      (second.embedding opener document)),
      group.Sound (first.embedding opener document) (second.embedding opener document) :=
    List.forall_mem_map.mpr fun group member => (sound group member).reread (inert group member)
  have same : ((groups.map (Group.reread (first.embedding opener document)
      (second.embedding opener document))).flatMap
        (Group.outer (first.embedding opener document))).flatMap
          (second.embedding opener document).renewal =
      (groups.flatMap (Group.outer (first.embedding opener document))).flatMap
        (second.embedding opener document).renewal := by
    simp only [List.flatMap_assoc, List.flatMap_map]
    exact List.flatMap_congr fun group member =>
      Group.flatMap_renewal_reread (inert group member)
  rw [processText_of_sound again_sound (Group.textLines_groups sound inert lines), same]

def oneLineFiles : Opener := fun _ => .ok (.ofText "x\n")

def fileRule : EmbedRule := ⟨.file, .standard .mapfile, 0, []⟩

def regionRule : EmbedRule := ⟨.region, .standard .maprange, 0, []⟩

/-- A document with a block for each of the rules; the region it asks for is empty. -/
def twoBlocks : String := "mapfile:a\nmapfile.end\nmaprange:b,r\nmaprange.end\n"

def twoBlocksFilled : String := "mapfile:a\nx\nmapfile.end\nmaprange:b,r\n\nmaprange.end\n"

def twoBlocksHalf : List String :=
  ["mapfile:a\n", "x\n", "mapfile.end\n", "maprange:b,r\n", "maprange.end\n"]

theorem twoBlocks_texts :
    (fileRule.embedding oneLineFiles ⟨"d"⟩).text? "a" = some "x\n" ∧
    (regionRule.embedding oneLineFiles ⟨"d"⟩).text? "b,r" = some "\n" :=
  ⟨by with_unfolding_all rfl, by with_unfolding_all rfl⟩

theorem fileRule_budget (opener : Opener) :
    (fileRule.embedding opener ⟨"d"⟩).budget "a" = 0 := by
  with_unfolding_all rfl

theorem regionRule_budget (opener : Opener) :
    (regionRule.embedding opener ⟨"d"⟩).budget "b,r" = 0 := by
  with_unfolding_all rfl

theorem twoBlocks_silent : ∀ line ∈ ["x\n", "\n"],
    fileRule.markers.Silent line ∧ regionRule.markers.Silent line := by
  simp only [fileRule, regionRule, Markers.Silent, Markers.parameter?_standard,
    Markers.isStop_standard]
  decide

theorem twoBlocks_marks :
    (textLines twoBlocks).map (Markers.marks fileRule.markers regionRule.markers) =
      [[true, false, false, false], [false, true, false, false], [false, false, true, false],
        [false, false, false, true]] := by
  have lines : textLines twoBlocks =
      ["mapfile:a\n", "mapfile.end\n", "maprange:b,r\n", "maprange.end\n"] := by decide
  simp only [lines, List.map_cons, List.map_nil, Markers.marks, fileRule, regionRule,
    Markers.parameter?_standard, Markers.isStop_standard]
  decide

theorem pieces_twoBlocks : fileRule.markers.pieces (textLines twoBlocks) =
    [.block "mapfile:a\n" "a" [] "mapfile.end\n", .plain "maprange:b,r\n",
      .plain "maprange.end\n"] := by
  refine Markers.pieces_eq_iff.mpr ⟨?_, by decide⟩
  simp only [fileRule, Markers.Cuts, Markers.parameter?_standard, Markers.isStop_standard]
  decide

theorem pieces_twoBlocksHalf : regionRule.markers.pieces twoBlocksHalf =
    [.plain "mapfile:a\n", .plain "x\n", .plain "mapfile.end\n",
      .block "maprange:b,r\n" "b,r" [] "maprange.end\n"] := by
  refine Markers.pieces_eq_iff.mpr ⟨?_, by decide⟩
  simp only [regionRule, Markers.Cuts, Markers.parameter?_standard, Markers.isStop_standard]
  decide

theorem twoBlocks_apply :
    (fileRule.toRule.apply oneLineFiles ⟨"d"⟩ (textLines twoBlocks)).outcome =
      .ok twoBlocksHalf := by
  refine apply_eq_ok.mpr ⟨?_, ?_⟩
  · simp [pieces_twoBlocks, Embedding.Ready, twoBlocks_texts.1]
  · rw [pieces_twoBlocks, List.flatMap_cons, Embedding.renewal_of_budget (fileRule_budget _),
      Embedding.text, twoBlocks_texts.1]
    rfl

theorem twoBlocks_runs :
    (processText oneLineFiles [fileRule.toRule, regionRule.toRule] ⟨"d"⟩ twoBlocks).outcome =
      .ok twoBlocksFilled := by
  have later : (regionRule.toRule.apply oneLineFiles ⟨"d"⟩ twoBlocksHalf).outcome =
      .ok ["mapfile:a\n", "x\n", "mapfile.end\n", "maprange:b,r\n", "\n", "maprange.end\n"] := by
    refine apply_eq_ok.mpr ⟨?_, ?_⟩
    · simp [pieces_twoBlocksHalf, Embedding.Ready, twoBlocks_texts.2]
    · simp only [pieces_twoBlocksHalf, List.flatMap_cons, List.flatMap_nil,
        Embedding.renewal_of_budget (regionRule_budget _), Embedding.text, twoBlocks_texts.2]
      rfl
  rw [outcome_processText, applyAll_pair, Run.outcome_bind, twoBlocks_apply]
  show ((regionRule.toRule.apply oneLineFiles ⟨"d"⟩ twoBlocksHalf).outcome).map render = _
  rw [later]
  decide

theorem twoBlocks_inert :
    (fileRule.embedding oneLineFiles ⟨"d"⟩).Inert fileRule.markers regionRule.markers "a" ∧
    (regionRule.embedding oneLineFiles ⟨"d"⟩).Inert fileRule.markers regionRule.markers "b,r" := by
  refine ⟨⟨fileRule_budget _, fun line member => twoBlocks_silent line ?_⟩,
    ⟨regionRule_budget _, fun line member => twoBlocks_silent line ?_⟩⟩
  · rw [Embedding.text, twoBlocks_texts.1] at member
    revert line
    decide
  · rw [Embedding.text, twoBlocks_texts.2] at member
    revert line
    decide

theorem twoBlocks_repeatable : Repeatable fileRule regionRule oneLineFiles ⟨"d"⟩ twoBlocks where
  single := by
    intro line member
    have here := List.mem_map_of_mem (f := Markers.marks fileRule.markers regionRule.markers) member
    rw [twoBlocks_marks] at here
    revert here
    generalize Markers.marks fileRule.markers regionRule.markers line = found
    revert found
    decide
  inert := by
    rw [Markers.parameters, pieces_twoBlocks]
    exact List.forall_mem_singleton.mpr twoBlocks_inert.1
  later_inert := by
    intro nodes went
    rw [twoBlocks_apply] at went
    cases went
    rw [Markers.parameters, pieces_twoBlocksHalf]
    exact List.forall_mem_singleton.mpr twoBlocks_inert.2

theorem twoBlocks_again :
    (processText oneLineFiles [fileRule.toRule, regionRule.toRule] ⟨"d"⟩ twoBlocksFilled).outcome =
      .ok twoBlocksFilled :=
  processText_again_of_repeatable fileRule regionRule oneLineFiles ⟨"d"⟩ twoBlocks twoBlocksFilled
    twoBlocks_runs twoBlocks_repeatable

end EmbedRule

end Transclude
