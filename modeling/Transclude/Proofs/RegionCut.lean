import Transclude.Proofs.RegionPass

/-!
A document cut into the regions of one name and the nodes outside of them. Outside, the first node
with a start marker of the name opens a region; its lines are the longest run of nodes without an
end marker, and the node behind them closes it. Extraction gives the lines of all regions, in order.
It fails at the first start marker outside that cannot be decoded, and if there is none at a region
that is not closed. Markers of other names do not make it fail.
-/

namespace Transclude

/-- A part of a document, as it is seen by the filter for a name. -/
inductive RegionPart where
  | outside (node : String)
  | region (start : String) (lines : List String) (stop : String)
  | unclosed (start : String) (lines : List String)
  deriving DecidableEq, Repr, Inhabited

namespace RegionPart

def nodes : RegionPart → List String
  | outside node => [node]
  | region start lines stop => start :: lines ++ [stop]
  | unclosed start lines => start :: lines

/-- The lines of a region; nothing is kept of any other part. -/
def kept : RegionPart → List String
  | region _ lines _ => lines
  | _ => []

def IsClosed : RegionPart → Prop
  | unclosed _ _ => False
  | _ => True

end RegionPart

def regionNodeCount (parts : List RegionPart) : Nat := (parts.flatMap RegionPart.nodes).length

namespace RegionFilter

variable (filter : RegionFilter)

def parts : List String → List RegionPart
  | [] => []
  | node :: rest =>
    match filter.opens node with
    | .ok true =>
      match _closing : filter.markers.afterBody rest with
      | [] => [.unclosed node rest]
      | stop :: after => .region node (filter.markers.body rest) stop :: parts after
    | _ => .outside node :: parts rest
termination_by nodes => nodes.length
decreasing_by
  · have shorter :=
      (List.dropWhile_suffix (l := rest) fun node => !filter.markers.isStop node).length_le
    rw [← Markers.afterBody, _closing] at shorter
    simp only [List.length_cons] at shorter ⊢
    omega
  · exact Nat.lt_succ_self _

/-- The start marker of a node outside of regions can be decoded, if it has one. -/
def Reads : RegionPart → Prop
  | .outside node => ∀ parameter, filter.markers.parameter? node = some parameter →
      ∃ name, Parameter.decodeRegionName parameter = .ok name
  | _ => True

/-- What a part gives, the first node of which has the given position. -/
def given (document : Path) (line : Nat) : RegionPart → Except Failure (List String)
  | .outside node => (filter.opens node).map fun _ => []
  | .region _ lines _ => .ok lines
  | .unclosed _ _ => .error (.unterminated .range document line)

/-- What one part after the other gives. -/
def givenAll (document : Path) : Nat → List RegionPart → Except Failure (List String)
  | _, [] => .ok []
  | line, part :: rest =>
    (filter.given document line part).bind fun lines =>
      (givenAll document (line + part.nodes.length) rest).map (lines ++ ·)

variable {filter} {document : Path}

variable (document) in
/-- Inside a region the pass keeps the nodes up to an end marker. -/
theorem outcome_scan_body {lines : List String}
    (clean : ∀ node ∈ lines, filter.markers.isStop node = false) (line opened : Nat)
    (rest : List String) :
    (filter.scan document line (.inside opened) (lines ++ rest)).outcome =
      (filter.scan document (line + lines.length) (.inside opened) rest).outcome.map
        (lines ++ ·) := by
  induction lines generalizing line with
  | nil =>
    rw [List.nil_append, List.length_nil, Nat.add_zero]
    cases (filter.scan document line (.inside opened) rest).outcome <;> rfl
  | cons node lines ih =>
    rw [List.forall_mem_cons] at clean
    have position : line + 1 + lines.length = line + (node :: lines).length := by
      rw [List.length_cons]
      omega
    rw [List.cons_append, outcome_scan_cons, step_body clean.1, Run.outcome_pure]
    simp only [Except.bind, ih clean.2, position]
    cases (filter.scan document (line + (node :: lines).length) (.inside opened) rest).outcome <;>
      rfl

/-- A node that opens a region, with what follows up to the end of the region. -/
theorem outcome_extract_region (document : Path) (front lines after : List String)
    {kept : List String} {node stop : String}
    (stands : filter.reached front = .ok (kept, .outside)) (opening : filter.opens node = .ok true)
    (clean : ∀ other ∈ lines, filter.markers.isStop other = false)
    (closing : filter.markers.isStop stop = true) :
    (filter.extract document (front ++ node :: (lines ++ stop :: after))).outcome =
      ((filter.extract document after).outcome.map (kept ++ lines ++ ·)).mapError
        (Failure.moved 0 (front.length + lines.length + 2)) := by
  have later := filter.outcome_scan_moved (Nat.zero_le 1) document
    (front.length + lines.length + 2) .outside after
  have position : front.length + 1 + 1 + lines.length + 1 =
      1 + (front.length + lines.length + 2) := by omega
  rw [RegionScan.moved, ← position] at later
  rw [outcome_extract_cons stands, outcome_step_outside, opening, extract]
  simp only [Except.map, Except.bind, entered, if_true]
  rw [outcome_scan_body document clean, outcome_scan_cons, step_stop closing, Run.outcome_pure]
  simp only [Except.bind, later]
  cases (filter.scan document 1 .outside after).outcome with
  | error failure => rfl
  | ok others => simp [Except.map, Except.mapError]

theorem outcome_extract_unclosed {front kept lines : List String} {node : String}
    (stands : filter.reached front = .ok (kept, .outside)) (opening : filter.opens node = .ok true)
    (clean : ∀ other ∈ lines, filter.markers.isStop other = false) :
    (filter.extract document (front ++ node :: lines)).outcome =
      .error (.unterminated .range document (front.length + 1)) := by
  have inside := outcome_scan_body document clean (front.length + 1 + 1)
    (front.length + 1) []
  rw [List.append_nil] at inside
  rw [outcome_extract_cons stands, outcome_step_outside, opening]
  simp only [Except.map, Except.bind, entered, if_true, inside]
  rfl

/-- The pass over a document takes its parts one after the other. -/
theorem outcome_scan (line : Nat) (nodes : List String) :
    (filter.scan document line .outside nodes).outcome =
      filter.givenAll document line (filter.parts nodes) := by
  fun_induction parts filter nodes generalizing line with
  | case1 => rfl
  | case2 node rest opening ending =>
    have whole := filter.markers.body_append_afterBody rest
    have inside := outcome_scan_body document (filter.markers.body_clean rest)
      (line + 1) line []
    rw [ending] at whole
    rw [whole] at inside
    rw [outcome_scan_cons, outcome_step_outside, opening]
    simp only [Except.map, Except.bind, entered, if_true, inside]
    rfl
  | case3 node rest opening stop after closing ih =>
    have whole := filter.markers.body_append_afterBody rest
    have inside := outcome_scan_body document (filter.markers.body_clean rest)
      (line + 1) line (stop :: after)
    have stops := filter.markers.isStop_of_afterBody closing
    have position : line + 1 + (filter.markers.body rest).length + 1 =
        line + (RegionPart.region node (filter.markers.body rest) stop).nodes.length := by
      simp only [RegionPart.nodes, List.length_cons, List.length_append, List.length_nil]
      omega
    rw [closing] at whole
    -- Behind the end marker the pass stands outside again, where the other parts begin.
    rw [whole, outcome_scan_cons, step_stop stops, Run.outcome_pure] at inside
    rw [outcome_scan_cons, outcome_step_outside, opening, givenAll, ← ih]
    simp only [Except.map, Except.bind, entered, if_true, inside, position, given]
    cases (filter.scan document _ .outside after).outcome <;> rfl
  | case4 node rest other ih =>
    rw [outcome_scan_cons, outcome_step_outside, givenAll, given]
    cases opening : filter.opens node with
    | error failure => rfl
    | ok opens =>
      cases opens with
      | true => exact absurd opening other
      | false =>
        have later := ih (line + 1)
        simp only [Except.map, Except.bind, entered, Bool.false_eq_true, if_false, later]
        rfl

variable (filter) in
/-- The parts of a document are its nodes, in order. -/
theorem nodes_parts (nodes : List String) :
    (filter.parts nodes).flatMap RegionPart.nodes = nodes := by
  fun_induction parts filter nodes with
  | case1 => rfl
  | case2 node rest opening ending => simp [RegionPart.nodes]
  | case3 node rest opening stop after closing ih =>
    have whole := filter.markers.body_append_afterBody rest
    rw [closing] at whole
    simp [RegionPart.nodes, ih, whole]
  | case4 node rest other ih => simp [RegionPart.nodes, ih]

/-- Only the last part can be a region without an end. -/
theorem unclosed_last {nodes : List String} {before after : List RegionPart} {start : String}
    {lines : List String} (split : filter.parts nodes = before ++ .unclosed start lines :: after) :
    after = [] := by
  fun_induction parts filter nodes generalizing before with
  | case1 => simp at split
  | case2 node rest opening ending =>
    have size := congrArg List.length split
    simp only [List.length_cons, List.length_nil, List.length_append] at size
    exact List.length_eq_zero_iff.mp (by omega)
  | case3 node rest opening stop closed closing ih =>
    cases before with
    | nil => cases split
    | cons part before => exact ih (List.cons.inj split).2
  | case4 node rest other ih =>
    cases before with
    | nil => cases split
    | cons part before => exact ih (List.cons.inj split).2

theorem isClosed_of_before {nodes : List String} {before after : List RegionPart}
    {part : RegionPart} (split : filter.parts nodes = before ++ part :: after) :
    ∀ earlier ∈ before, earlier.IsClosed := by
  intro earlier member
  cases earlier with
  | outside _ | region _ _ _ => trivial
  | unclosed start lines =>
    obtain ⟨front, back, rfl⟩ := List.append_of_mem member
    rw [List.append_assoc, List.cons_append] at split
    exact absurd (unclosed_last split) (by simp)

/-- A part begins behind the nodes of the parts before it. -/
theorem getElem?_regionNodeCount {nodes lines : List String} {before : List RegionPart}
    {start : String} (split : filter.parts nodes = before ++ [.unclosed start lines]) :
    nodes[regionNodeCount before]? = some start := by
  have whole := filter.nodes_parts nodes
  rw [split, List.flatMap_append] at whole
  rw [← whole, regionNodeCount, List.getElem?_append_right (Nat.le_refl _), Nat.sub_self]
  rfl

theorem given_eq_ok {line : Nat} {part : RegionPart} {output : List String} :
    filter.given document line part = .ok output ↔
      filter.Reads part ∧ part.IsClosed ∧ output = part.kept := by
  cases part with
  | outside node =>
    rw [given, Reads, ← exists_opens_iff]
    cases filter.opens node with
    | error failure => simp [Except.map]
    | ok opening => simp [Except.map, RegionPart.IsClosed, RegionPart.kept, eq_comm]
  | region start lines stop => simp [given, Reads, RegionPart.IsClosed, RegionPart.kept, eq_comm]
  | unclosed start lines => simp [given, RegionPart.IsClosed]

theorem given_eq_error {line : Nat} {part : RegionPart} {failure : Failure} :
    filter.given document line part = .error failure ↔
      (∃ node parameter fault, part = .outside node ∧
        filter.markers.parameter? node = some parameter ∧
        Parameter.decodeRegionName parameter = .error fault ∧
        failure = .malformed .range parameter fault) ∨
      ∃ start lines, part = .unclosed start lines ∧
        failure = .unterminated .range document line := by
  cases part with
  | outside node =>
    simp only [RegionPart.outside.injEq, exists_and_left, exists_eq_left', reduceCtorEq, false_and,
      exists_false, or_false]
    simp only [← exists_and_left, ← opens_eq_error, given]
    cases filter.opens node with
    | error cause => simp [Except.map]
    | ok opening => simp [Except.map]
  | region start lines stop => simp [given]
  | unclosed start lines => simp [given, eq_comm]

theorem givenAll_cons_eq_ok {line : Nat} {part : RegionPart} {rest : List RegionPart}
    {output : List String} :
    filter.givenAll document line (part :: rest) = .ok output ↔
      ∃ lines others, filter.given document line part = .ok lines ∧
        filter.givenAll document (line + part.nodes.length) rest = .ok others ∧
        output = lines ++ others := by
  rw [givenAll]
  cases filter.given document line part with
  | error failure => simp [Except.bind]
  | ok lines =>
    cases filter.givenAll document (line + part.nodes.length) rest with
    | error failure => simp [Except.bind, Except.map]
    | ok others => simp [Except.bind, Except.map, eq_comm]

theorem givenAll_cons_eq_error {line : Nat} {part : RegionPart} {rest : List RegionPart}
    {failure : Failure} :
    filter.givenAll document line (part :: rest) = .error failure ↔
      filter.given document line part = .error failure ∨
        (filter.Reads part ∧ part.IsClosed) ∧
          filter.givenAll document (line + part.nodes.length) rest = .error failure := by
  have sound : (∃ lines, filter.given document line part = .ok lines) ↔
      filter.Reads part ∧ part.IsClosed := by
    simp only [given_eq_ok, exists_and_left, exists_eq, and_true]
  rw [givenAll, ← sound]
  cases filter.given document line part with
  | error cause => simp [Except.bind]
  | ok lines =>
    cases filter.givenAll document (line + part.nodes.length) rest with
    | error cause => simp [Except.bind, Except.map]
    | ok others => simp [Except.bind, Except.map]

/-- Parts give the lines of all regions, when all of them can be read and are closed. -/
theorem givenAll_eq_ok {line : Nat} {parts : List RegionPart} {output : List String} :
    filter.givenAll document line parts = .ok output ↔
      (∀ part ∈ parts, filter.Reads part) ∧ (∀ part ∈ parts, part.IsClosed) ∧
        output = parts.flatMap RegionPart.kept := by
  induction parts generalizing line output with
  | nil => simp [givenAll, eq_comm]
  | cons part rest ih =>
    rw [givenAll_cons_eq_ok, List.forall_mem_cons, List.forall_mem_cons, List.flatMap_cons]
    simp only [given_eq_ok, ih]
    constructor
    · rintro ⟨_, _, ⟨reads, closed, rfl⟩, ⟨others_read, others_closed, rfl⟩, rfl⟩
      exact ⟨⟨reads, others_read⟩, ⟨closed, others_closed⟩, rfl⟩
    · rintro ⟨⟨reads, others_read⟩, ⟨closed, others_closed⟩, rfl⟩
      exact ⟨_, _, ⟨reads, closed, rfl⟩, ⟨others_read, others_closed, rfl⟩, rfl⟩

/-- Parts fail with the failure of the first of them that cannot be read or is not closed. -/
theorem givenAll_eq_error {line : Nat} {parts : List RegionPart} {failure : Failure} :
    filter.givenAll document line parts = .error failure ↔
      ∃ before part after, parts = before ++ part :: after ∧
        (∀ earlier ∈ before, filter.Reads earlier ∧ earlier.IsClosed) ∧
        filter.given document (line + regionNodeCount before) part = .error failure := by
  induction parts generalizing line with
  | nil => simp [givenAll]
  | cons part rest ih =>
    rw [givenAll_cons_eq_error]
    constructor
    · rintro (broken | ⟨sound, later⟩)
      · exact ⟨[], part, rest, rfl, List.forall_mem_nil _, broken⟩
      · obtain ⟨before, other, after, rfl, earlier, broken⟩ := ih.mp later
        refine ⟨part :: before, other, after, rfl, List.forall_mem_cons.mpr ⟨sound, earlier⟩, ?_⟩
        rw [← broken, regionNodeCount, List.flatMap_cons, List.length_append, Nat.add_assoc,
          regionNodeCount]
    · rintro ⟨before, other, after, split, earlier, broken⟩
      cases before with
      | nil =>
        cases split
        exact .inl broken
      | cons first before =>
        obtain ⟨rfl, rfl⟩ := List.cons.inj split
        rw [List.forall_mem_cons] at earlier
        refine .inr ⟨earlier.1, ih.mpr ⟨before, other, after, rfl, earlier.2, ?_⟩⟩
        rw [← broken, regionNodeCount, regionNodeCount, List.flatMap_cons, List.length_append,
          Nat.add_assoc]

theorem outcome_apply_range (opener : Opener) (nodes : List String) :
    ((Rule.range filter).apply opener document nodes).outcome =
      (filter.extract document nodes).outcome := by
  rw [Rule.apply, filterRegion, Run.outcome_within]

theorem extract_eq_ok {nodes output : List String} :
    (filter.extract document nodes).outcome = .ok output ↔
      (∀ part ∈ filter.parts nodes, filter.Reads part) ∧
        (∀ part ∈ filter.parts nodes, part.IsClosed) ∧
        output = (filter.parts nodes).flatMap RegionPart.kept := by
  rw [extract, outcome_scan, givenAll_eq_ok]

theorem extract_eq_error {nodes : List String} {failure : Failure} :
    (filter.extract document nodes).outcome = .error failure ↔
      (∃ before node after parameter fault,
        filter.parts nodes = before ++ .outside node :: after ∧
        (∀ part ∈ before, filter.Reads part) ∧
        filter.markers.parameter? node = some parameter ∧
        Parameter.decodeRegionName parameter = .error fault ∧
        failure = .malformed .range parameter fault) ∨
      (∀ part ∈ filter.parts nodes, filter.Reads part) ∧
        ∃ before start lines, filter.parts nodes = before ++ [.unclosed start lines] ∧
          failure = .unterminated .range document (regionNodeCount before + 1) := by
  rw [extract, outcome_scan, givenAll_eq_error]
  simp only [given_eq_error]
  constructor
  · rintro ⟨before, part, after, split, earlier, broken | open_end⟩
    · obtain ⟨node, parameter, fault, rfl, found, broken, rfl⟩ := broken
      exact .inl ⟨before, node, after, parameter, fault, split,
        fun part member => (earlier part member).1, found, broken, rfl⟩
    · obtain ⟨start, lines, rfl, rfl⟩ := open_end
      have last := unclosed_last split
      subst last
      refine .inr ⟨fun part member => ?_, before, start, lines, split, by rw [Nat.add_comm]⟩
      rw [split, List.mem_append, List.mem_singleton] at member
      rcases member with inside | rfl
      · exact (earlier part inside).1
      · trivial
  · rintro (⟨before, node, after, parameter, fault, split, reads, found, broken, rfl⟩ |
      ⟨reads, before, start, lines, split, rfl⟩)
    · exact ⟨before, _, after, split,
        fun part member => ⟨reads part member, isClosed_of_before split part member⟩,
        .inl ⟨node, parameter, fault, rfl, found, broken, rfl⟩⟩
    · refine ⟨before, _, [], split, fun part member => ⟨reads part ?_, ?_⟩,
        .inr ⟨start, lines, rfl, by rw [Nat.add_comm]⟩⟩
      · rw [split]
        exact List.mem_append_left _ member
      · exact isClosed_of_before split part member

/-- A start marker of another name can be taken out of a document, or put into it, without making
the extraction fail. -/
theorem extract_ok_iff_without {node : String} (silent : filter.opens node = .ok false)
    (clean : filter.markers.isStop node = false) (front back : List String) :
    (∃ output, (filter.extract document (front ++ node :: back)).outcome = .ok output) ↔
      ∃ output, (filter.extract document (front ++ back)).outcome = .ok output := by
  cases stands : filter.reached front with
  | error failure => simp only [outcome_extract_of_reached_error stands]
  | ok behind =>
    obtain ⟨kept, state⟩ := behind
    cases state with
    | outside =>
      rw [outcome_extract_outside stands silent]
      cases (filter.extract document (front ++ back)).outcome with
      | error failure => simp [Except.mapError]
      | ok output => simp [Except.mapError]
    | inside opened =>
      rw [outcome_extract_inside stands clean]
      cases (filter.extract document (front ++ back)).outcome with
      | error failure => simp [Except.map, Except.mapError]
      | ok output => simp [Except.map, Except.mapError]

variable (filter document)

/-- Extraction gives the lines of all regions of the name, in order, exactly when every start marker
outside of them can be decoded and all of them are closed. Otherwise it fails with the first of
those start markers that cannot be decoded, and if there is none with the position of the region
that is not closed. Start markers of other names never make it fail. -/
theorem apply_range_iff_regions (opener : Opener) (nodes : List String) :
    let outcome := fun nodes => ((Rule.range filter).apply opener document nodes).outcome
    let parts := filter.parts nodes
    (∀ output, outcome nodes = .ok output ↔
      (∀ part ∈ parts, filter.Reads part) ∧ (∀ part ∈ parts, part.IsClosed) ∧
        output = parts.flatMap RegionPart.kept) ∧
    (∀ failure, outcome nodes = .error failure ↔
      (∃ before node after parameter fault, parts = before ++ .outside node :: after ∧
        (∀ part ∈ before, filter.Reads part) ∧
        filter.markers.parameter? node = some parameter ∧
        Parameter.decodeRegionName parameter = .error fault ∧
        failure = .malformed .range parameter fault) ∨
      (∀ part ∈ parts, filter.Reads part) ∧
        ∃ before start lines, parts = before ++ [.unclosed start lines] ∧
          failure = .unterminated .range document (regionNodeCount before + 1) ∧
          nodes[regionNodeCount before]? = some start) ∧
    ∀ front node back parameter name, nodes = front ++ node :: back →
      filter.markers.parameter? node = some parameter →
      Parameter.decodeRegionName parameter = .ok name → name ≠ filter.name →
      filter.markers.isStop node = false →
      ((∃ output, outcome nodes = .ok output) ↔
        ∃ output, outcome (front ++ back) = .ok output) := by
  intro outcome parts
  simp only [outcome, outcome_apply_range]
  refine ⟨fun output => extract_eq_ok, fun failure => ?_, ?_⟩
  · rw [extract_eq_error]
    refine or_congr_right (and_congr_right fun _ => ?_)
    constructor
    · rintro ⟨before, start, lines, split, rfl⟩
      exact ⟨before, start, lines, split, rfl, getElem?_regionNodeCount split⟩
    · rintro ⟨before, start, lines, split, same, -⟩
      exact ⟨before, start, lines, split, same⟩
  · rintro front node back parameter name rfl found decoded other clean
    have silent : filter.opens node = .ok false := by
      refine opens_eq_false.mpr fun again same => ?_
      rw [found] at same
      cases same
      exact ⟨name, decoded, other⟩
    exact extract_ok_iff_without silent clean front back

end RegionFilter

end Transclude
