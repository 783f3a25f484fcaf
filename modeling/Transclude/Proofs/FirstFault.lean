import Transclude.Proofs.EmbeddingRule

/-!
Which failure an embedding rule reports. Whatever can go wrong in a document shows at some node: a
parameter at the start marker that holds it, a target at the end marker of its block, and a missing
end marker behind the last node. The rule fails with what shows first.
-/

namespace Transclude.EmbedRule

variable (rule : EmbedRule) (opener : Opener) (document : Path)

/-- A failure of one part, whose first node has the given line, with the position at which it
shows. -/
inductive PieceFault (line : Nat) : Piece → Nat → Failure → Prop
  | parameter {piece : Piece} {parameter : String} {fault : Parameter.Fault} :
    piece.parameter? = some parameter → rule.kind.decode document parameter = .error fault →
      PieceFault line piece line (.malformed rule.kind.directive parameter fault)
  | target {start parameter stop : String} {body : List String} {target : rule.kind.Target}
      {skip : Option Nat} {failure : Failure} :
    rule.kind.decode document parameter = .ok (target, skip) →
      (rule.kind.load opener rule.inner target).outcome = .error failure →
      PieceFault line (.block start parameter body stop) (line + body.length + 1) failure
  | ending {start parameter : String} {body : List String} :
    PieceFault line (.unclosed start parameter body) (line + body.length + 1)
      (.unterminated rule.kind.directive document line)

/-- A failure of one of some parts, the first of which begins at the given line. -/
def FaultIn (line : Nat) (cut : List Piece) (position : Nat) (failure : Failure) : Prop :=
  ∃ before piece after, cut = before ++ piece :: after ∧
    rule.PieceFault opener document (line + nodeCount before) piece position failure

/-- A failure that shows no later than any other one. -/
def FirstFaultIn (line : Nat) (cut : List Piece) (position : Nat) (failure : Failure) : Prop :=
  rule.FaultIn opener document line cut position failure ∧
    ∀ other cause, rule.FaultIn opener document line cut other cause → position ≤ other

/-- The failure that shows first in a document. -/
def FirstFault (nodes : List String) (position : Nat) (failure : Failure) : Prop :=
  rule.FirstFaultIn opener document 1 (rule.markers.pieces nodes) position failure

variable {rule opener document}

theorem faultIn_nil {line position : Nat} {failure : Failure} :
    ¬rule.FaultIn opener document line [] position failure := by
  rintro ⟨before, piece, after, split, -⟩
  exact List.append_ne_nil_of_right_ne_nil before (List.cons_ne_nil piece after) split.symm

theorem faultIn_cons {line position : Nat} {piece : Piece} {rest : List Piece} {failure : Failure} :
    rule.FaultIn opener document line (piece :: rest) position failure ↔
      rule.PieceFault opener document line piece position failure ∨
        rule.FaultIn opener document (line + piece.nodes.length) rest position failure := by
  have shifted : ∀ before, line + nodeCount (piece :: before) =
      line + piece.nodes.length + nodeCount before := by
    intro before
    rw [nodeCount_cons]
    omega
  constructor
  · rintro ⟨before, other, after, split, fault⟩
    cases before with
    | nil =>
      cases split
      exact .inl fault
    | cons first before =>
      cases split
      exact .inr ⟨before, other, after, rfl, shifted before ▸ fault⟩
  · rintro (fault | ⟨before, other, after, rfl, fault⟩)
    · exact ⟨[], piece, rest, rfl, by simpa [nodeCount] using fault⟩
    · exact ⟨piece :: before, other, after, rfl, shifted before ▸ fault⟩

theorem position_lt_of_pieceFault {line position : Nat} {piece : Piece} {failure : Failure}
    (closed : piece.IsClosed)
    (fault : rule.PieceFault opener document line piece position failure) :
    position < line + piece.nodes.length := by
  cases fault with
  | parameter opens _ =>
    cases piece with
    | plain node => cases opens
    | block start parameter body stop => rw [Piece.length_nodes_block]; omega
    | unclosed start parameter body => cases closed
  | target _ _ => rw [Piece.length_nodes_block]; omega
  | ending => cases closed

theorem le_position_of_pieceFault {line position : Nat} {piece : Piece} {failure : Failure}
    (fault : rule.PieceFault opener document line piece position failure) : line ≤ position := by
  cases fault with
  | parameter _ _ => exact Nat.le_refl _
  | target _ _ => omega
  | ending => omega

theorem le_position_of_faultIn {line position : Nat} {cut : List Piece} {failure : Failure}
    (fault : rule.FaultIn opener document line cut position failure) : line ≤ position := by
  obtain ⟨before, piece, after, -, inside⟩ := fault
  have bound := le_position_of_pieceFault inside
  omega

theorem request_eq_error {parameter : String} {failure : Failure} :
    ((rule.embedding opener document).request parameter).outcome = .error failure ↔
      ∃ fault, rule.kind.decode document parameter = .error fault ∧
        failure = .malformed rule.kind.directive parameter fault := by
  change (rule.kind.request document parameter).outcome = .error failure ↔ _
  rw [EmbedKind.outcome_request]
  cases rule.kind.decode document parameter with
  | error fault => simp [Except.mapError, eq_comm]
  | ok asked => simp [Except.mapError]

theorem renew_eq_error {line : Nat} {piece : Piece} {failure : Failure} :
    ((rule.embedding opener document).renew document line piece).outcome = .error failure ↔
      ∃ position, rule.PieceFault opener document line piece position failure ∧
        ∀ other cause, rule.PieceFault opener document line piece other cause →
          position ≤ other := by
  cases piece with
  | plain node =>
    constructor
    · rintro ⟨⟩
    · rintro ⟨position, fault, -⟩
      cases fault with
      | parameter opens _ => cases opens
  | block start parameter body stop =>
    simp only [Embedding.renew, Run.bind_eq_error, Run.outcome_pure, reduceCtorEq, and_false,
      exists_false, or_false, request_eq_error, request_eq_ok]
    constructor
    · rintro (⟨fault, broken, rfl⟩ | ⟨⟨target, skip⟩, asked, missing⟩)
      · exact ⟨line, .parameter rfl broken, fun other cause => le_position_of_pieceFault⟩
      · refine ⟨_, .target asked missing, fun other cause later => ?_⟩
        cases later with
        | parameter opens broken =>
          cases opens
          rw [asked] at broken
          cases broken
        | target _ _ => exact Nat.le_refl _
    · rintro ⟨position, fault, -⟩
      cases fault with
      | parameter opens broken =>
        cases opens
        exact .inl ⟨_, broken, rfl⟩
      | target asked missing => exact .inr ⟨_, asked, missing⟩
  | unclosed start parameter body =>
    simp only [Embedding.renew, Run.bind_eq_error, Run.outcome_fail, Except.error.injEq,
      request_eq_error, request_eq_ok]
    constructor
    · rintro (⟨fault, broken, rfl⟩ | ⟨asked, decoded, rfl⟩)
      · exact ⟨line, .parameter rfl broken, fun other cause => le_position_of_pieceFault⟩
      · refine ⟨_, .ending, fun other cause later => ?_⟩
        cases later with
        | parameter opens broken =>
          cases opens
          rw [decoded] at broken
          cases broken
        | ending => exact Nat.le_refl _
    · rintro ⟨position, fault, first⟩
      cases fault with
      | parameter opens broken =>
        cases opens
        exact .inl ⟨_, broken, rfl⟩
      | ending =>
        cases decoded : rule.kind.decode document parameter with
        | error fault =>
          have early := first _ _ (.parameter rfl decoded)
          omega
        | ok asked => exact .inr ⟨asked, rfl, rfl⟩

theorem not_pieceFault_of_ok {line position : Nat} {piece : Piece} {failure : Failure}
    {output : List String}
    (went : ((rule.embedding opener document).renew document line piece).outcome = .ok output) :
    ¬rule.PieceFault opener document line piece position failure := by
  rw [Embedding.renew_eq_ok, ready_iff] at went
  obtain ⟨⟨closed, loads⟩, -⟩ := went
  intro fault
  cases fault with
  | parameter opens broken =>
    obtain ⟨target, skip, content, asked, -⟩ := loads _ opens
    rw [broken] at asked
    cases asked
  | target asked missing =>
    obtain ⟨target, skip, content, asked', found⟩ := loads _ rfl
    rw [asked] at asked'
    cases asked'
    rw [missing] at found
    cases found
  | ending => exact closed

/-- A failure of a part shows before those of the parts behind it. -/
theorem position_lt_of_faultIn {line position other : Nat} {piece : Piece} {rest : List Piece}
    {failure cause : Failure} (cuts : rule.markers.Cuts (piece :: rest))
    (fault : rule.PieceFault opener document line piece position failure)
    (later : rule.FaultIn opener document (line + piece.nodes.length) rest other cause) :
    position < other := by
  have closed : piece.IsClosed := by
    refine cuts.isClosed fun none => ?_
    rw [none] at later
    exact faultIn_nil later
  exact Nat.lt_of_lt_of_le (position_lt_of_pieceFault closed fault) (le_position_of_faultIn later)

/-- What shows first is a failure of the first part, or the first one of those behind it. -/
theorem firstFaultIn_cons {line position : Nat} {piece : Piece} {rest : List Piece}
    {failure : Failure} (cuts : rule.markers.Cuts (piece :: rest)) :
    rule.FirstFaultIn opener document line (piece :: rest) position failure ↔
      (rule.PieceFault opener document line piece position failure ∧
        ∀ other cause, rule.PieceFault opener document line piece other cause →
          position ≤ other) ∨
      ((∀ other cause, ¬rule.PieceFault opener document line piece other cause) ∧
        rule.FirstFaultIn opener document (line + piece.nodes.length) rest position failure) := by
  constructor
  · rintro ⟨any, first⟩
    have inside_late := fun other cause fault =>
      first other cause (faultIn_cons.mpr (.inl fault))
    rcases faultIn_cons.mp any with inside | behind
    · exact .inl ⟨inside, inside_late⟩
    · refine .inr ⟨fun other cause fault => ?_, behind, fun other cause fault =>
        first other cause (faultIn_cons.mpr (.inr fault))⟩
      have before := inside_late other cause fault
      have after := position_lt_of_faultIn cuts fault behind
      omega
  · rintro (⟨inside, first⟩ | ⟨sound, behind, first⟩)
    · refine ⟨faultIn_cons.mpr (.inl inside), fun other cause any => ?_⟩
      rcases faultIn_cons.mp any with fault | later
      · exact first other cause fault
      · exact (position_lt_of_faultIn cuts inside later).le
    · refine ⟨faultIn_cons.mpr (.inr behind), fun other cause any => ?_⟩
      rcases faultIn_cons.mp any with fault | later
      · exact absurd fault (sound other cause)
      · exact first other cause later

/-- Bringing parts up to date fails with what shows first in any of them. -/
theorem renewAll_eq_error {line : Nat} {cut : List Piece} (cuts : rule.markers.Cuts cut)
    {failure : Failure} :
    ((rule.embedding opener document).renewAll document line cut).outcome = .error failure ↔
      ∃ position, rule.FirstFaultIn opener document line cut position failure := by
  induction cut generalizing line with
  | nil =>
    constructor
    · rintro ⟨⟩
    · rintro ⟨position, fault, -⟩
      exact absurd fault faultIn_nil
  | cons piece rest ih =>
    simp only [Embedding.renewAll, Run.bind_eq_error, Run.outcome_pure, reduceCtorEq, and_false,
      exists_false, or_false, ih cuts.tail, firstFaultIn_cons cuts]
    constructor
    · rintro (broken | ⟨nodes, went, position, later⟩)
      · obtain ⟨position, first⟩ := renew_eq_error.mp broken
        exact ⟨position, .inl first⟩
      · exact ⟨position, .inr ⟨fun _ _ => not_pieceFault_of_ok went, later⟩⟩
    · rintro ⟨position, inside | ⟨sound, behind⟩⟩
      · exact .inl (renew_eq_error.mpr ⟨position, inside⟩)
      · cases result : ((rule.embedding opener document).renew document line piece).outcome with
        | error cause =>
          obtain ⟨early, fault, -⟩ := renew_eq_error.mp result
          exact absurd fault (sound early cause)
        | ok nodes => exact .inr ⟨nodes, rfl, position, behind⟩

/-- A failure of a closed part, or of a parameter, shows at a node of the document; a missing end
marker shows behind the last node. -/
theorem faultIn_pieces {nodes : List String} {position : Nat} {failure : Failure}
    (fault : rule.FaultIn opener document 1 (rule.markers.pieces nodes) position failure) :
    position ≤ nodes.length ∨
      ∃ before start parameter body,
        rule.markers.pieces nodes = before ++ [.unclosed start parameter body] ∧
        position = nodes.length + 1 ∧
        failure = .unterminated rule.kind.directive document (nodeCount before + 1) := by
  obtain ⟨before, piece, after, split, inside⟩ := fault
  have bound := Markers.nodeCount_add_le split
  cases inside with
  | parameter _ _ =>
    have nonempty := piece.nodes_length_pos
    exact .inl (by omega)
  | target _ _ =>
    rw [Piece.length_nodes_block] at bound
    exact .inl (by omega)
  | @ending start parameter body =>
    obtain ⟨rfl, size⟩ := Markers.nodeCount_of_unclosed split
    exact .inr ⟨before, start, parameter, body, split, by omega, by rw [Nat.add_comm]⟩

/-- Nothing fails at a node of the document exactly when every parameter decodes and every closed
block can be filled. -/
theorem no_fault_at_nodes_iff {nodes : List String} :
    (∀ position failure,
      rule.FaultIn opener document 1 (rule.markers.pieces nodes) position failure →
        nodes.length < position) ↔
      (∀ piece ∈ rule.markers.pieces nodes, ∀ parameter, piece.parameter? = some parameter →
        rule.Decodes document parameter) ∧
      ∀ piece ∈ rule.markers.pieces nodes, piece.IsClosed →
        ∀ parameter, piece.parameter? = some parameter → rule.Loads opener document parameter := by
  constructor
  · intro late
    have decodes : ∀ piece ∈ rule.markers.pieces nodes, ∀ parameter,
        piece.parameter? = some parameter → rule.Decodes document parameter := by
      intro piece member parameter opens
      obtain ⟨before, after, split⟩ := List.append_of_mem member
      cases decoded : rule.kind.decode document parameter with
      | ok asked => exact ⟨asked, decoded⟩
      | error fault =>
        have behind := late _ _ ⟨before, piece, after, split, .parameter opens decoded⟩
        have bound := Markers.nodeCount_add_le split
        have nonempty := piece.nodes_length_pos
        omega
    refine ⟨decodes, fun piece member closed parameter opens => ?_⟩
    obtain ⟨before, after, split⟩ := List.append_of_mem member
    obtain ⟨⟨target, skip⟩, asked⟩ := decodes piece member parameter opens
    cases found : (rule.kind.load opener rule.inner target).outcome with
    | ok content => exact ⟨target, skip, content, asked, found⟩
    | error failure =>
      cases piece with
      | plain node => cases opens
      | unclosed start other body => cases closed
      | block start other body stop =>
        cases opens
        have behind := late _ _ ⟨before, _, after, split, .target asked found⟩
        have bound := Markers.nodeCount_add_le split
        rw [Piece.length_nodes_block] at bound
        omega
  · rintro ⟨decodes, loads⟩ position failure ⟨before, piece, after, split, fault⟩
    have member : piece ∈ rule.markers.pieces nodes := by rw [split]; simp
    cases fault with
    | parameter opens broken =>
      obtain ⟨asked, decoded⟩ := decodes piece member _ opens
      rw [broken] at decoded
      cases decoded
    | target asked missing =>
      obtain ⟨target, skip, content, asked', found⟩ := loads _ member trivial _ rfl
      rw [asked] at asked'
      cases asked'
      rw [missing] at found
      cases found
    | ending =>
      obtain ⟨-, whole⟩ := Markers.nodeCount_of_unclosed split
      omega

/-- What fails behind the last node is a missing end marker, reported at its start marker. -/
theorem fault_behind_iff {nodes : List String} {line : Nat} :
    rule.FaultIn opener document 1 (rule.markers.pieces nodes) (nodes.length + 1)
        (.unterminated rule.kind.directive document line) ↔
      ∃ before start parameter body,
        rule.markers.pieces nodes = before ++ [.unclosed start parameter body] ∧
        line = nodeCount before + 1 := by
  constructor
  · intro fault
    rcases faultIn_pieces fault with early | ⟨before, start, parameter, body, split, -, same⟩
    · omega
    · cases same
      exact ⟨before, start, parameter, body, split, rfl⟩
  · rintro ⟨before, start, parameter, body, split, rfl⟩
    obtain ⟨-, size⟩ := Markers.nodeCount_of_unclosed split
    have position : nodes.length + 1 = 1 + nodeCount before + body.length + 1 := by omega
    refine ⟨before, .unclosed start parameter body, [], split, ?_⟩
    rw [position, Nat.add_comm (nodeCount before) 1]
    exact .ending

/-- The failure of a missing end marker shows first exactly when nothing else fails. -/
theorem firstFault_unterminated_iff {nodes : List String} {line : Nat} :
    rule.FirstFault opener document nodes (nodes.length + 1)
        (.unterminated rule.kind.directive document line) ↔
      (∀ piece ∈ rule.markers.pieces nodes, ∀ parameter, piece.parameter? = some parameter →
        rule.Decodes document parameter) ∧
      (∀ piece ∈ rule.markers.pieces nodes, piece.IsClosed →
        ∀ parameter, piece.parameter? = some parameter → rule.Loads opener document parameter) ∧
      ∃ before start parameter body,
        rule.markers.pieces nodes = before ++ [.unclosed start parameter body] ∧
        line = nodeCount before + 1 := by
  rw [FirstFault, FirstFaultIn, fault_behind_iff, and_comm, ← and_assoc]
  exact and_congr_left fun _ => no_fault_at_nodes_iff

/-- The paths that are opened for a part: those that loading the target of a closed block opens. -/
def opens (rule : EmbedRule) (opener : Opener) (document : Path) : Piece → List Path
  | .block _ parameter _ _ =>
    match rule.kind.decode document parameter with
    | .ok (target, _) => (rule.kind.load opener rule.inner target).opened
    | .error _ => []
  | _ => []

theorem opened_renew (line : Nat) (piece : Piece) :
    ((rule.embedding opener document).renew document line piece).opened =
      rule.opens opener document piece := by
  have asking : ∀ parameter,
      ((rule.embedding opener document).request parameter).opened = [] :=
    rule.kind.opened_request document
  cases piece with
  | plain node => rfl
  | unclosed start parameter body =>
    rw [Embedding.renew, Run.opened_bind_of_silent (fun _ => rfl), asking]
    rfl
  | block start parameter body stop =>
    rw [Embedding.renew, opens]
    cases decoded : rule.kind.decode document parameter with
    | error fault =>
      have refused : ((rule.embedding opener document).request parameter).outcome = _ :=
        request_eq_error.mpr ⟨fault, decoded, rfl⟩
      rw [Run.opened_bind_of_error refused, asking]
    | ok asked =>
      have granted : ((rule.embedding opener document).request parameter).outcome = _ :=
        request_eq_ok.mpr decoded
      rw [Run.opened_bind_of_ok granted, asking, List.nil_append,
        Run.opened_bind_of_silent (fun _ => rfl)]
      rfl

/-- What is opened for a document is what the targets of its first closed blocks open, in order. -/
theorem opened_renewAll (line : Nat) (cut : List Piece) :
    ∃ done, done <+: cut ∧
      ((rule.embedding opener document).renewAll document line cut).opened =
        done.flatMap (rule.opens opener document) := by
  induction cut generalizing line with
  | nil => exact ⟨[], List.nil_prefix, rfl⟩
  | cons piece rest ih =>
    cases result : ((rule.embedding opener document).renew document line piece).outcome with
    | error failure =>
      refine ⟨[piece], ⟨rest, rfl⟩, ?_⟩
      rw [Embedding.renewAll, Run.opened_bind_of_error result, opened_renew, List.flatMap_singleton]
    | ok nodes =>
      obtain ⟨done, first, others⟩ := ih (line + piece.nodes.length)
      refine ⟨piece :: done, List.cons_prefix_cons.mpr ⟨rfl, first⟩, ?_⟩
      rw [Embedding.renewAll, Run.opened_bind_of_ok result, opened_renew,
        Run.opened_bind_of_silent (fun _ => rfl), others, List.flatMap_cons]

variable (rule opener document)

/-- A rule fails with what shows first in the document. A block without an end is reported exactly
when every parameter decodes and every closed block can be filled, with the position of its start
marker; and nothing is opened but for closed blocks. -/
theorem apply_error_iff_first_fault (nodes : List String) :
    (∀ failure, (rule.toRule.apply opener document nodes).outcome = .error failure ↔
      ∃ position, rule.FirstFault opener document nodes position failure) ∧
    (∀ line, rule.FirstFault opener document nodes (nodes.length + 1)
        (.unterminated rule.kind.directive document line) ↔
      (∀ piece ∈ rule.markers.pieces nodes, ∀ parameter, piece.parameter? = some parameter →
        rule.Decodes document parameter) ∧
      (∀ piece ∈ rule.markers.pieces nodes, piece.IsClosed →
        ∀ parameter, piece.parameter? = some parameter → rule.Loads opener document parameter) ∧
      ∃ before start parameter body,
        rule.markers.pieces nodes = before ++ [.unclosed start parameter body] ∧
        line = nodeCount before + 1 ∧ nodes[line - 1]? = some start) ∧
    ∃ done, done <+: rule.markers.pieces nodes ∧
      (rule.toRule.apply opener document nodes).opened =
        done.flatMap (rule.opens opener document) := by
  refine ⟨fun failure => ?_, fun line => ?_, ?_⟩
  · rw [apply_toRule, Run.outcome_within, Embedding.embed_eq_renewAll]
    exact renewAll_eq_error (rule.markers.cuts_pieces nodes)
  · rw [firstFault_unterminated_iff]
    refine and_congr_right fun _ => and_congr_right fun _ => ?_
    constructor
    · rintro ⟨before, start, parameter, body, split, rfl⟩
      exact ⟨before, start, parameter, body, split, rfl, Markers.getElem?_nodeCount split⟩
    · rintro ⟨before, start, parameter, body, split, same, -⟩
      exact ⟨before, start, parameter, body, split, same⟩
  · rw [apply_toRule, Run.opened_within, Embedding.embed_eq_renewAll]
    exact opened_renewAll 1 (rule.markers.pieces nodes)

end Transclude.EmbedRule
