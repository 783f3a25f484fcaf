import Mathlib.Data.List.DropRight
import Mathlib.Data.List.TakeWhile
import Transclude.Block

/-!
A document cut into its blocks and the nodes outside of them. Outside of blocks, the first node with
a parameter opens one; its body is the longest run of nodes without an end marker, and the node
behind the body closes it. Every document has exactly one such cut.
-/

namespace Transclude

/-- A part of a document. -/
inductive Piece where
  | plain (node : String)
  | block (start parameter : String) (body : List String) (stop : String)
  | unclosed (start parameter : String) (body : List String)
  deriving DecidableEq, Repr, Inhabited

namespace Piece

def nodes : Piece → List String
  | plain node => [node]
  | block start _ body stop => start :: body ++ [stop]
  | unclosed start _ body => start :: body

/-- The parameter with which a block opens. -/
def parameter? : Piece → Option String
  | plain _ => none
  | block _ parameter _ _ | unclosed _ parameter _ => some parameter

def IsClosed : Piece → Prop
  | unclosed _ _ _ => False
  | _ => True

theorem length_nodes_block (start parameter : String) (body : List String) (stop : String) :
    (block start parameter body stop).nodes.length = body.length + 2 := by
  simp [nodes]

theorem length_nodes_unclosed (start parameter : String) (body : List String) :
    (unclosed start parameter body).nodes.length = body.length + 1 := rfl

theorem nodes_length_pos (piece : Piece) : 0 < piece.nodes.length := by
  cases piece with
  | plain _ | block _ _ _ _ | unclosed _ _ _ => simp [nodes]

theorem flatMap_nodes_ne_nil {pieces : List Piece} (nonempty : pieces ≠ []) :
    pieces.flatMap nodes ≠ [] := by
  obtain ⟨piece, rest, rfl⟩ := List.exists_cons_of_ne_nil nonempty
  rw [List.flatMap_cons]
  exact List.append_ne_nil_of_left_ne_nil (List.ne_nil_of_length_pos piece.nodes_length_pos) _

end Piece

/-- How many nodes some parts of a document have together. -/
def nodeCount (pieces : List Piece) : Nat := (pieces.flatMap Piece.nodes).length

theorem nodeCount_append (first second : List Piece) :
    nodeCount (first ++ second) = nodeCount first + nodeCount second := by
  simp [nodeCount]

theorem nodeCount_cons (piece : Piece) (rest : List Piece) :
    nodeCount (piece :: rest) = piece.nodes.length + nodeCount rest := by
  simp [nodeCount]

namespace Markers

variable (markers : Markers)

/-- The parts of a document. -/
def pieces : List String → List Piece
  | [] => []
  | node :: rest =>
    match markers.parameter? node with
    | none => .plain node :: pieces rest
    | some parameter =>
      match _closing : markers.afterBody rest with
      | [] => [.unclosed node parameter rest]
      | stop :: after => .block node parameter (markers.body rest) stop :: pieces after
termination_by nodes => nodes.length
decreasing_by
  · exact Nat.lt_succ_self _
  · have shorter := (List.dropWhile_suffix (l := rest) fun node => !markers.isStop node).length_le
    rw [← afterBody, _closing] at shorter
    simp only [List.length_cons] at shorter ⊢
    omega

/-- The parameters with which the blocks of a document open. -/
def parameters (nodes : List String) : List String :=
  (markers.pieces nodes).filterMap Piece.parameter?

/-- The parts of a list are cut where the markers say; a block without an end is the last part. -/
def Cuts : List Piece → Prop
  | [] => True
  | .plain node :: rest => markers.parameter? node = none ∧ Cuts rest
  | .block start parameter body stop :: rest =>
    markers.parameter? start = some parameter ∧ (∀ node ∈ body, markers.isStop node = false) ∧
      markers.isStop stop = true ∧ Cuts rest
  | .unclosed start parameter body :: rest =>
    markers.parameter? start = some parameter ∧ (∀ node ∈ body, markers.isStop node = false) ∧
      rest = []

/-- A part by itself is cut where the markers say. -/
def Fits : Piece → Prop
  | .plain node => markers.parameter? node = none
  | .block start parameter body stop =>
    markers.parameter? start = some parameter ∧ (∀ node ∈ body, markers.isStop node = false) ∧
      markers.isStop stop = true
  | .unclosed start parameter body =>
    markers.parameter? start = some parameter ∧ ∀ node ∈ body, markers.isStop node = false

theorem body_clean (nodes : List String) :
    ∀ node ∈ markers.body nodes, markers.isStop node = false := by
  intro node member
  have kept := List.mem_takeWhile_imp member
  simpa using kept

theorem body_append_afterBody (nodes : List String) :
    markers.body nodes ++ markers.afterBody nodes = nodes :=
  List.takeWhile_append_dropWhile

theorem isStop_of_afterBody {nodes after : List String} {stop : String}
    (closing : markers.afterBody nodes = stop :: after) : markers.isStop stop = true := by
  have found := List.head?_dropWhile_not (fun node => !markers.isStop node) nodes
  rw [← afterBody, closing] at found
  simpa using found

variable {markers}

theorem body_of_clean {body rest : List String}
    (clean : ∀ node ∈ body, markers.isStop node = false) :
    markers.body (body ++ rest) = body ++ markers.body rest :=
  List.takeWhile_append_of_pos fun node member => by simp [clean node member]

theorem afterBody_of_clean {body rest : List String}
    (clean : ∀ node ∈ body, markers.isStop node = false) :
    markers.afterBody (body ++ rest) = markers.afterBody rest :=
  List.dropWhile_append_of_pos fun node member => by simp [clean node member]

/-- The body of a block reaches to its end marker. -/
theorem body_append_stop {body : List String} {stop : String}
    (clean : ∀ node ∈ body, markers.isStop node = false) (closing : markers.isStop stop = true)
    (after : List String) : markers.body (body ++ stop :: after) = body := by
  rw [body_of_clean clean, Markers.body, List.takeWhile_cons_of_neg (by simp [closing]),
    List.append_nil]

theorem afterBody_append_stop {body : List String} {stop : String}
    (clean : ∀ node ∈ body, markers.isStop node = false) (closing : markers.isStop stop = true)
    (after : List String) : markers.afterBody (body ++ stop :: after) = stop :: after := by
  rw [afterBody_of_clean clean, afterBody, List.dropWhile_cons_of_neg (by simp [closing])]

theorem afterBody_eq_nil {body : List String}
    (clean : ∀ node ∈ body, markers.isStop node = false) : markers.afterBody body = [] := by
  rw [← List.append_nil body, afterBody_of_clean clean]
  rfl

variable (markers) in
/-- The parts of a document are cut where the markers say. -/
theorem cuts_pieces (nodes : List String) : markers.Cuts (markers.pieces nodes) := by
  fun_induction pieces markers nodes with
  | case1 => trivial
  | case2 node rest outside ih => exact ⟨outside, ih⟩
  | case3 node rest parameter opening ending =>
    have whole := markers.body_append_afterBody rest
    rw [ending, List.append_nil] at whole
    exact ⟨opening, whole ▸ markers.body_clean rest, rfl⟩
  | case4 node rest parameter opening stop after closing ih =>
    exact ⟨opening, markers.body_clean rest, markers.isStop_of_afterBody closing, ih⟩

variable (markers) in
/-- The parts of a document are its nodes, in order. -/
theorem nodes_pieces (nodes : List String) : (markers.pieces nodes).flatMap Piece.nodes = nodes := by
  fun_induction pieces markers nodes with
  | case1 => rfl
  | case2 node rest outside ih => simp [Piece.nodes, ih]
  | case3 node rest parameter opening ending => simp [Piece.nodes]
  | case4 node rest parameter opening stop after closing ih =>
    have whole := markers.body_append_afterBody rest
    rw [closing] at whole
    simp [Piece.nodes, ih, whole]

theorem mem_parameters {nodes : List String} {piece : Piece} {parameter : String}
    (member : piece ∈ markers.pieces nodes) (opens : piece.parameter? = some parameter) :
    parameter ∈ markers.parameters nodes :=
  List.mem_filterMap.mpr ⟨piece, member, opens⟩

variable (markers) in
theorem nodeCount_pieces (nodes : List String) :
    nodeCount (markers.pieces nodes) = nodes.length := by
  rw [nodeCount, nodes_pieces]

/-- A part with what stands before it is no longer than the document. -/
theorem nodeCount_add_le {nodes : List String} {before after : List Piece} {piece : Piece}
    (split : markers.pieces nodes = before ++ piece :: after) :
    nodeCount before + piece.nodes.length ≤ nodes.length := by
  rw [← markers.nodeCount_pieces nodes, split, nodeCount_append, nodeCount_cons]
  omega

/-- A part begins behind the nodes of the parts before it. -/
theorem getElem?_nodeCount {nodes : List String} {before after : List Piece} {piece : Piece}
    (split : markers.pieces nodes = before ++ piece :: after) :
    nodes[nodeCount before]? = piece.nodes.head? := by
  rw [← markers.nodes_pieces nodes, split, List.flatMap_append, nodeCount,
    List.getElem?_append_right (Nat.le_refl _), Nat.sub_self, List.flatMap_cons,
    ← List.head?_eq_getElem?, List.head?_append_of_ne_nil]
  exact List.ne_nil_of_length_pos piece.nodes_length_pos

/-- A list of parts that is cut where the markers say is what its nodes are cut into. -/
theorem pieces_of_cuts {cut : List Piece} (cuts : markers.Cuts cut) :
    markers.pieces (cut.flatMap Piece.nodes) = cut := by
  induction cut with
  | nil => rw [List.flatMap_nil, pieces]
  | cons piece rest ih =>
    cases piece with
    | plain node =>
      obtain ⟨outside, others⟩ := cuts
      rw [List.flatMap_cons, Piece.nodes, List.cons_append, List.nil_append, pieces, outside, ih others]
    | block start parameter body stop =>
      obtain ⟨opening, clean, closing, others⟩ := cuts
      have nodes : (Piece.block start parameter body stop).nodes ++ rest.flatMap Piece.nodes =
          start :: (body ++ stop :: rest.flatMap Piece.nodes) := by simp [Piece.nodes]
      rw [List.flatMap_cons, nodes, pieces, opening]
      simp only
      split
      · next ending =>
        rw [afterBody_append_stop clean closing] at ending
        cases ending
      · next stop' after' found =>
        rw [afterBody_append_stop clean closing] at found
        cases found
        rw [body_append_stop clean closing, ih others]
    | unclosed start parameter body =>
      obtain ⟨opening, clean, rfl⟩ := cuts
      rw [List.flatMap_cons, List.flatMap_nil, List.append_nil, Piece.nodes, pieces, opening]
      simp only
      split
      · rfl
      · next found =>
        rw [afterBody_eq_nil clean] at found
        cases found

theorem Cuts.tail {piece : Piece} {rest : List Piece} (cuts : markers.Cuts (piece :: rest)) :
    markers.Cuts rest := by
  cases piece with
  | plain node => exact cuts.2
  | block start parameter body stop => exact cuts.2.2.2
  | unclosed start parameter body => exact cuts.2.2 ▸ trivial

/-- A part with others behind it is closed. -/
theorem Cuts.isClosed {piece : Piece} {rest : List Piece} (cuts : markers.Cuts (piece :: rest))
    (more : rest ≠ []) : piece.IsClosed := by
  cases piece with
  | plain _ | block _ _ _ _ => trivial
  | unclosed _ _ _ => exact absurd cuts.2.2 more

/-- Only the last part can be without an end. -/
theorem Cuts.unclosed_last {before after : List Piece} {start parameter : String}
    {body : List String} (cuts : markers.Cuts (before ++ .unclosed start parameter body :: after)) :
    after = [] := by
  induction before with
  | nil => exact cuts.2.2
  | cons piece before ih => exact ih cuts.tail

theorem Cuts.start_of_unclosed {before after : List Piece} {start parameter : String}
    {body : List String} (cuts : markers.Cuts (before ++ .unclosed start parameter body :: after)) :
    markers.parameter? start = some parameter := by
  induction before with
  | nil => exact cuts.1
  | cons piece before ih => exact ih cuts.tail

/-- A block without an end reaches to the end of the document. -/
theorem nodeCount_of_unclosed {nodes : List String} {before after : List Piece}
    {start parameter : String} {body : List String}
    (split : markers.pieces nodes = before ++ .unclosed start parameter body :: after) :
    after = [] ∧ nodeCount before + body.length + 1 = nodes.length := by
  have cuts := markers.cuts_pieces nodes
  rw [split] at cuts
  have last := cuts.unclosed_last
  subst last
  refine ⟨rfl, ?_⟩
  rw [← markers.nodeCount_pieces nodes, split, nodeCount_append, nodeCount_cons,
    Piece.length_nodes_unclosed]
  rfl

/-- Where all blocks are closed, each part can be looked at by itself. -/
theorem cuts_iff_fits {cut : List Piece} (closed : ∀ piece ∈ cut, piece.IsClosed) :
    markers.Cuts cut ↔ ∀ piece ∈ cut, markers.Fits piece := by
  induction cut with
  | nil => simp [Cuts]
  | cons piece rest ih =>
    rw [List.forall_mem_cons] at closed
    rw [List.forall_mem_cons, ← ih closed.2]
    cases piece with
    | plain node => exact Iff.rfl
    | block start parameter body stop => simp only [Cuts, Fits, and_assoc]
    | unclosed start parameter body => exact closed.1.elim

/-- Every document has exactly one cut. -/
theorem pieces_eq_iff {nodes : List String} {cut : List Piece} :
    markers.pieces nodes = cut ↔ markers.Cuts cut ∧ cut.flatMap Piece.nodes = nodes := by
  constructor
  · rintro rfl
    exact ⟨markers.cuts_pieces nodes, markers.nodes_pieces nodes⟩
  · rintro ⟨cuts, rfl⟩
    exact pieces_of_cuts cuts

theorem pieces_plain_append {front : List String}
    (outside : ∀ node ∈ front, markers.parameter? node = none) (back : List String) :
    markers.pieces (front ++ back) = front.map .plain ++ markers.pieces back := by
  induction front with
  | nil => rfl
  | cons node rest ih =>
    rw [List.forall_mem_cons] at outside
    rw [List.cons_append, pieces, outside.1, ih outside.2]
    rfl

theorem pieces_block_append {start parameter stop : String} {body : List String}
    (opening : markers.parameter? start = some parameter)
    (clean : ∀ node ∈ body, markers.isStop node = false) (closing : markers.isStop stop = true)
    (back : List String) :
    markers.pieces (start :: body ++ stop :: back) =
      .block start parameter body stop :: markers.pieces back := by
  refine pieces_eq_iff.mpr ⟨⟨opening, clean, closing, markers.cuts_pieces back⟩, ?_⟩
  rw [List.flatMap_cons, nodes_pieces]
  simp [Piece.nodes]

theorem pieces_unclosed {start parameter : String} {body : List String}
    (opening : markers.parameter? start = some parameter)
    (clean : ∀ node ∈ body, markers.isStop node = false) :
    markers.pieces (start :: body) = [.unclosed start parameter body] :=
  pieces_eq_iff.mpr ⟨⟨opening, clean, rfl⟩, by simp [Piece.nodes]⟩

end Markers

end Transclude
