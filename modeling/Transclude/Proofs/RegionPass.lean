import Transclude.Proofs.EmbeddingRule

/-!
How a pass over the regions of a document goes on from wherever it stands. What it does with later
nodes depends on the earlier ones only by way of the region in which it stands, and on positions
only where it reports one. So a node can be taken out of a document, or put into it, with a known
effect on what is kept.
-/

namespace Transclude

/-- The position of a node before which others were put in: those from `bound` on are moved. -/
def movedLine (bound count line : Nat) : Nat := if line < bound then line else line + count

/-- A failure as it is reported when nodes from a position on are moved. -/
def Failure.moved (bound count : Nat) : Failure → Failure
  | .unterminated directive path line => .unterminated directive path (movedLine bound count line)
  | other => other

def RegionScan.moved (bound count : Nat) : RegionScan → RegionScan
  | .outside => .outside
  | .inside line => .inside (movedLine bound count line)

theorem movedLine_of_le {bound line : Nat} (behind : bound ≤ line) (count : Nat) :
    movedLine bound count line = line + count := if_neg (Nat.not_lt.mpr behind)

theorem movedLine_of_lt {bound line : Nat} (before : line < bound) (count : Nat) :
    movedLine bound count line = line := if_pos before

namespace RegionFilter

variable (filter : RegionFilter)

/-- Whether a node outside of regions opens one of the name; it fails where the node has a start
marker that cannot be decoded. -/
def opens (node : String) : Except Failure Bool :=
  match filter.markers.parameter? node with
  | none => .ok false
  | some parameter =>
    match Parameter.decodeRegionName parameter with
    | .error fault => .error (.malformed .range parameter fault)
    | .ok name => .ok (name = filter.name)

/-- Where the pass stands behind a node that opens a region, or does not. -/
def entered (line : Nat) (opening : Bool) : RegionScan := if opening then .inside line else .outside

variable {filter}

theorem opens_cases (filter : RegionFilter) (node : String) :
    (filter.markers.parameter? node = none ∧ filter.opens node = .ok false) ∨
    (∃ parameter fault, filter.markers.parameter? node = some parameter ∧
      Parameter.decodeRegionName parameter = .error fault ∧
      filter.opens node = .error (.malformed .range parameter fault)) ∨
    ∃ parameter name, filter.markers.parameter? node = some parameter ∧
      Parameter.decodeRegionName parameter = .ok name ∧
      filter.opens node = .ok (decide (name = filter.name)) := by
  unfold opens
  cases filter.markers.parameter? node with
  | none => exact .inl ⟨rfl, rfl⟩
  | some parameter =>
    cases decoded : Parameter.decodeRegionName parameter with
    | error fault => exact .inr (.inl ⟨parameter, fault, rfl, decoded, by simp only [decoded]⟩)
    | ok name => exact .inr (.inr ⟨parameter, name, rfl, decoded, by simp only [decoded]⟩)

section

variable {node : String}

theorem opens_eq_error {failure : Failure} :
    filter.opens node = .error failure ↔
      ∃ parameter fault, filter.markers.parameter? node = some parameter ∧
        Parameter.decodeRegionName parameter = .error fault ∧
        failure = .malformed .range parameter fault := by
  rcases filter.opens_cases node with ⟨found, known⟩ | ⟨_, _, found, decoded, known⟩ |
    ⟨_, _, found, decoded, known⟩ <;> simp [*, eq_comm]

theorem opens_eq_true :
    filter.opens node = .ok true ↔
      ∃ parameter, filter.markers.parameter? node = some parameter ∧
        Parameter.decodeRegionName parameter = .ok filter.name := by
  rcases filter.opens_cases node with ⟨found, known⟩ | ⟨_, _, found, decoded, known⟩ |
    ⟨_, _, found, decoded, known⟩ <;> simp [*]

theorem opens_eq_false :
    filter.opens node = .ok false ↔
      ∀ parameter, filter.markers.parameter? node = some parameter →
        ∃ name, Parameter.decodeRegionName parameter = .ok name ∧ name ≠ filter.name := by
  rcases filter.opens_cases node with ⟨found, known⟩ | ⟨_, _, found, decoded, known⟩ |
    ⟨_, _, found, decoded, known⟩ <;> simp [*]

/-- The start marker of a node can be decoded, if it has one, exactly when it is known whether the
node opens a region. -/
theorem exists_opens_iff :
    (∃ opening, filter.opens node = .ok opening) ↔
      ∀ parameter, filter.markers.parameter? node = some parameter →
        ∃ name, Parameter.decodeRegionName parameter = .ok name := by
  rcases filter.opens_cases node with ⟨found, known⟩ | ⟨_, _, found, decoded, known⟩ |
    ⟨_, _, found, decoded, known⟩ <;> simp [*]

end

theorem outcome_step_outside (line : Nat) (node : String) :
    (filter.step line .outside node).outcome =
      (filter.opens node).map fun opening => ([], entered line opening) := by
  rw [step, opens]
  cases filter.markers.parameter? node with
  | none => rfl
  | some parameter =>
    dsimp only
    rw [Run.outcome_bind, outcome_decodeParameter]
    cases Parameter.decodeRegionName parameter with
    | error fault => rfl
    | ok name =>
      show Except.ok ([], if name = filter.name then RegionScan.inside line else .outside) =
        Except.ok ([], entered line (decide (name = filter.name)))
      rw [entered]
      simp only [decide_eq_true_eq]

theorem step_stop {node : String} (closing : filter.markers.isStop node = true) (line : Nat)
    (opened : Nat) : filter.step line (.inside opened) node = pure ([], .outside) := by
  rw [step, if_pos closing]

theorem step_body {node : String} (clean : filter.markers.isStop node = false) (line : Nat)
    (opened : Nat) : filter.step line (.inside opened) node = pure ([node], .inside opened) := by
  rw [step, if_neg (by simp [clean])]

theorem step_eq_error {line : Nat} {state : RegionScan} {node : String} {failure : Failure} :
    (filter.step line state node).outcome = .error failure ↔
      ∃ parameter fault, state = .outside ∧ filter.markers.parameter? node = some parameter ∧
        Parameter.decodeRegionName parameter = .error fault ∧
        failure = .malformed .range parameter fault := by
  cases state with
  | inside opened =>
    cases closing : filter.markers.isStop node with
    | true => simp [step_stop closing]
    | false => simp [step_body closing]
  | outside =>
    rw [outcome_step_outside]
    simp only [true_and, ← opens_eq_error]
    cases filter.opens node with
    | error cause => simp [Except.map]
    | ok opening => simp [Except.map]

theorem outcome_scan_cons (document : Path) (line : Nat) (state : RegionScan) (node : String)
    (rest : List String) :
    (filter.scan document line state (node :: rest)).outcome =
      (filter.step line state node).outcome.bind fun after =>
        (filter.scan document (line + 1) after.2 rest).outcome.map (after.1 ++ ·) := by
  rw [scan, Run.outcome_bind]
  refine congrArg _ (funext fun after => ?_)
  rw [Run.outcome_bind]
  cases (filter.scan document (line + 1) after.2 rest).outcome <;> rfl

variable (filter) in
/-- Takes some nodes, the first of which stands at the given position, without coming to the end of
the document. -/
def advance : Nat → RegionScan → List String → Run (List String × RegionScan)
  | _, state, [] => return ([], state)
  | line, state, node :: rest => do
    let (kept, state) ← filter.step line state node
    let (others, state) ← advance (line + 1) state rest
    return (kept ++ others, state)

/-- The pass over a document is one over its first nodes and, from where that stands, one over the
others. -/
theorem scan_append (document : Path) (line : Nat) (state : RegionScan)
    (front back : List String) :
    filter.scan document line state (front ++ back) =
      filter.advance line state front >>= fun reached =>
        filter.scan document (line + front.length) reached.2 back >>= fun others =>
          pure (reached.1 ++ others) := by
  induction front generalizing line state with
  | nil => simp [advance]
  | cons node rest ih =>
    have position : line + 1 + rest.length = line + (node :: rest).length := by
      rw [List.length_cons]
      omega
    rw [List.cons_append, scan, advance]
    simp only [bind_assoc, pure_bind, ih, position, List.append_assoc]

/-- A step at a later position. -/
theorem outcome_step_moved {bound line : Nat} (behind : bound ≤ line) (count : Nat)
    (state : RegionScan) (node : String) :
    (filter.step (line + count) (state.moved bound count) node).outcome =
      (filter.step line state node).outcome.map fun reached =>
        (reached.1, reached.2.moved bound count) := by
  cases state with
  | inside opened =>
    cases closing : filter.markers.isStop node with
    | true => rw [RegionScan.moved, step_stop closing, step_stop closing]; rfl
    | false => rw [RegionScan.moved, step_body closing, step_body closing]; rfl
  | outside =>
    rw [RegionScan.moved, outcome_step_outside, outcome_step_outside]
    cases filter.opens node with
    | error failure => rfl
    | ok opening =>
      cases opening with
      | false => rfl
      | true =>
        simp [Except.map, entered, RegionScan.moved, movedLine_of_le behind]

variable (filter) in
/-- A pass at a later position keeps the same nodes, and fails alike. -/
theorem outcome_scan_moved {bound line : Nat} (behind : bound ≤ line) (document : Path)
    (count : Nat) (state : RegionScan) (nodes : List String) :
    (filter.scan document (line + count) (state.moved bound count) nodes).outcome =
      (filter.scan document line state nodes).outcome.mapError (Failure.moved bound count) := by
  -- A position shows only where a region was opened, and `moved` keeps track of that.
  induction nodes generalizing line state with
  | nil => cases state <;> rfl
  | cons node rest ih =>
    rw [outcome_scan_cons, outcome_scan_cons, outcome_step_moved behind]
    cases taken : (filter.step line state node).outcome with
    | error failure =>
      obtain ⟨parameter, fault, -, -, -, rfl⟩ := step_eq_error.mp taken
      rfl
    | ok reached =>
      have later := ih (Nat.le_succ_of_le behind) reached.2
      have position : line + count + 1 = line + 1 + count := by omega
      simp only [Except.map, Except.bind, position, later]
      cases (filter.scan document (line + 1) reached.2 rest).outcome with
      | error failure => rfl
      | ok others => rfl

/-- The region in which the pass stands was opened at a node that it has taken. -/
theorem lt_of_advance {line opened : Nat} {state : RegionScan} {front kept : List String}
    (before : ∀ earlier, state = .inside earlier → earlier < line)
    (reached : (filter.advance line state front).outcome = .ok (kept, .inside opened)) :
    opened < line + front.length := by
  induction front generalizing line state kept with
  | nil =>
    cases reached
    exact before opened rfl
  | cons node rest ih =>
    rw [advance, Run.bind_eq_ok] at reached
    obtain ⟨⟨own, after⟩, taken, reached⟩ := reached
    obtain ⟨⟨others, last⟩, later, ended⟩ := Run.bind_eq_ok.mp reached
    cases ended
    have bound : ∀ earlier, after = .inside earlier → earlier < line + 1 := by
      rintro earlier rfl
      cases state with
      | inside open_line =>
        have known := before open_line rfl
        cases closing : filter.markers.isStop node with
        | true => rw [step_stop closing] at taken; cases taken
        | false =>
          rw [step_body closing] at taken
          cases taken
          exact Nat.lt_succ_of_lt known
      | outside =>
        rw [outcome_step_outside] at taken
        cases opening : filter.opens node with
        | error failure => rw [opening] at taken; cases taken
        | ok named =>
          rw [opening] at taken
          cases named with
          | false => cases taken
          | true => cases taken; exact Nat.lt_succ_self _
    have inside := ih bound later
    rw [List.length_cons]
    omega

variable (filter) in
/-- What the pass over a document has kept of its first nodes, and where it stands behind them. -/
def reached (front : List String) : Except Failure (List String × RegionScan) :=
  (filter.advance 1 .outside front).outcome

theorem outcome_extract_append (document : Path) (front back : List String) :
    (filter.extract document (front ++ back)).outcome =
      (filter.reached front).bind fun behind =>
        (filter.scan document (front.length + 1) behind.2 back).outcome.map (behind.1 ++ ·) := by
  rw [extract, scan_append, Run.outcome_bind, Nat.add_comm 1, reached]
  refine congrArg _ (funext fun behind => ?_)
  rw [Run.outcome_bind]
  cases (filter.scan document (front.length + 1) behind.2 back).outcome <;> rfl

/-- Taking nodes fails at a start marker only. -/
theorem malformed_of_advance {line : Nat} {state : RegionScan} {front : List String}
    {failure : Failure} (failed : (filter.advance line state front).outcome = .error failure) :
    ∃ parameter fault, failure = .malformed .range parameter fault := by
  induction front generalizing line state with
  | nil => cases failed
  | cons node rest ih =>
    rw [advance, Run.bind_eq_error] at failed
    rcases failed with first | ⟨after, -, later⟩
    · obtain ⟨parameter, fault, -, -, -, same⟩ := step_eq_error.mp first
      exact ⟨parameter, fault, same⟩
    · rcases Run.bind_eq_error.mp later with second | ⟨_, -, done⟩
      · exact ih second
      · cases done

/-- A failure that shows in the first nodes is the one of the document. -/
theorem outcome_extract_of_reached_error {front : List String} {failure : Failure}
    (failed : filter.reached front = .error failure) (document : Path) (back : List String) :
    (filter.extract document (front ++ back)).outcome = .error failure := by
  rw [outcome_extract_append, failed]
  rfl

/-- One more node, as the pass takes it from where it stands. -/
theorem outcome_extract_cons {front kept : List String} {state : RegionScan}
    (stands : filter.reached front = .ok (kept, state)) (document : Path) (node : String)
    (back : List String) :
    (filter.extract document (front ++ node :: back)).outcome =
      (filter.step (front.length + 1) state node).outcome.bind fun after =>
        (filter.scan document (front.length + 1 + 1) after.2 back).outcome.map
          fun others => kept ++ (after.1 ++ others) := by
  rw [outcome_extract_append, stands]
  simp only [Except.bind, outcome_scan_cons]
  cases (filter.step (front.length + 1) state node).outcome with
  | error failure => rfl
  | ok after =>
    simp only
    cases (filter.scan document (front.length + 1 + 1) after.2 back).outcome <;> rfl

/-- A node outside of regions that opens none of the name leaves no trace. -/
theorem outcome_extract_outside {front kept : List String}
    (stands : filter.reached front = .ok (kept, .outside)) {node : String}
    (silent : filter.opens node = .ok false) (document : Path) (back : List String) :
    (filter.extract document (front ++ node :: back)).outcome =
      (filter.extract document (front ++ back)).outcome.mapError
        (Failure.moved (front.length + 1) 1) := by
  have later := filter.outcome_scan_moved (Nat.le_refl (front.length + 1)) document 1
    .outside back
  rw [RegionScan.moved] at later
  rw [outcome_extract_cons stands, outcome_step_outside, silent, outcome_extract_append, stands]
  simp only [Except.map, Except.bind, entered, Bool.false_eq_true, if_false, later,
    List.nil_append]
  cases (filter.scan document (front.length + 1) .outside back).outcome <;> rfl

theorem insertIdx_length_append (front back : List String) (node : String) :
    (front ++ back).insertIdx front.length node = front ++ node :: back := by
  induction front with
  | nil => exact List.insertIdx_zero
  | cons first rest ih =>
    rw [List.cons_append, List.length_cons, List.insertIdx_succ_cons, ih, List.cons_append]

/-- A node in a region of the name that does not end it is kept where it stands. -/
theorem outcome_extract_inside {front kept : List String} {opened : Nat}
    (stands : filter.reached front = .ok (kept, .inside opened)) {node : String}
    (clean : filter.markers.isStop node = false) (document : Path) (back : List String) :
    (filter.extract document (front ++ node :: back)).outcome =
      ((filter.extract document (front ++ back)).outcome.map
        (·.insertIdx kept.length node)).mapError (Failure.moved (front.length + 1) 1) := by
  have before : opened < 1 + front.length := lt_of_advance (fun _ same => by cases same) stands
  have later := filter.outcome_scan_moved (Nat.le_refl (front.length + 1)) document 1
    (.inside opened) back
  rw [RegionScan.moved, movedLine_of_lt (by omega)] at later
  rw [outcome_extract_cons stands, step_body clean, Run.outcome_pure, outcome_extract_append,
    stands]
  simp only [Except.map, Except.bind, later]
  cases (filter.scan document (front.length + 1) (.inside opened) back).outcome with
  | error failure => rfl
  | ok others => simp [Except.mapError, insertIdx_length_append]

/-- A node that ends a region: what follows is a document of its own. -/
theorem outcome_extract_stop {front kept : List String} {opened : Nat}
    (stands : filter.reached front = .ok (kept, .inside opened)) {node : String}
    (closing : filter.markers.isStop node = true) (document : Path) (back : List String) :
    (filter.extract document (front ++ node :: back)).outcome =
      ((filter.extract document back).outcome.map (kept ++ ·)).mapError
        (Failure.moved 0 (front.length + 1)) := by
  have later := filter.outcome_scan_moved (Nat.zero_le 1) document (front.length + 1)
    .outside back
  rw [RegionScan.moved, Nat.add_comm 1] at later
  rw [outcome_extract_cons stands, step_stop closing, Run.outcome_pure, extract]
  simp only [Except.bind, later, List.nil_append]
  cases (filter.scan document 1 .outside back).outcome <;> rfl

/-- A node outside of regions with a start marker that cannot be decoded. -/
theorem outcome_extract_fault {front kept : List String}
    (stands : filter.reached front = .ok (kept, .outside)) {node : String} {failure : Failure}
    (broken : filter.opens node = .error failure) (document : Path) (back : List String) :
    (filter.extract document (front ++ node :: back)).outcome = .error failure := by
  rw [outcome_extract_cons stands, outcome_step_outside, broken]
  rfl

end RegionFilter

end Transclude
