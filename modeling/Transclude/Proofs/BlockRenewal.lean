import Transclude.Proofs.BlockCut
import Transclude.Proofs.RunLaws

/-!
What one pass over a document does, part by part. The pass carries an open block along with a count
of the nodes it kept and the nodes it holds back; seen from the cut of the document, it renews one
part after the other.
-/

namespace Transclude

/-- The nodes kept at the end of a body, behind those kept at its start. -/
def keptTail (skip : Nat) (body : List String) : List String := (body.drop skip).rtake skip

/-- A block with its stale nodes replaced: up to `skip` nodes are kept at its start, and of those
that are left up to `skip` at its end. -/
def renewed (skip : Nat) (start text : String) (body : List String) (stop : String) :
    List String :=
  start :: body.take skip ++ text :: keptTail skip body ++ [stop]

namespace OpenBlock

variable {Target : Type}

/-- The nodes of a body that an open block passes on. -/
def kept (block : OpenBlock Target) (body : List String) : List String :=
  body.take (block.skip - block.passed)

def behind (block : OpenBlock Target) (body : List String) : OpenBlock Target :=
  { block with
    passed := block.passed + (block.kept body).length
    stale := (body.drop (block.skip - block.passed)).reverse ++ block.stale }

end OpenBlock

namespace Embedding

variable {Target : Type} (embedding : Embedding Target) (document : Path)

/-- Brings one part up to date, the first node of which has the given position. The target of a
block that is not closed is not loaded. -/
def renew (line : Nat) : Piece → Run (List String)
  | .plain node => return [node]
  | .block start parameter body stop => do
    let (target, skip) ← embedding.request parameter
    let text ← embedding.load target
    return renewed (skip.getD embedding.defaultSkip) start (endLine text) body stop
  | .unclosed _ parameter _ => do
    let _ ← embedding.request parameter
    Run.fail (.unterminated embedding.directive document line)

def renewAll : Nat → List Piece → Run (List String)
  | _, [] => return []
  | line, piece :: rest => do
    let nodes ← embedding.renew document line piece
    let others ← renewAll (line + piece.nodes.length) rest
    return nodes ++ others

/-- The body of a block passes through: its first nodes are kept, the others held back. -/
theorem scan_body (line : Nat) (block : OpenBlock Target) (body rest : List String)
    (clean : ∀ node ∈ body, embedding.markers.isStop node = false) :
    embedding.scan document line (.inside block) (body ++ rest) = do
      let others ← embedding.scan document (line + body.length) (.inside (block.behind body)) rest
      return block.kept body ++ others := by
  induction body generalizing line block with
  | nil => simp [OpenBlock.behind, OpenBlock.kept]
  | cons node body ih =>
    have here : embedding.markers.isStop node = false := clean node (List.mem_cons_self ..)
    have later := fun other member => clean other (List.mem_cons_of_mem node member)
    have position : line + 1 + body.length = line + (node :: body).length := by
      rw [List.length_cons]; omega
    rw [List.cons_append, scan, step, if_neg (by simp [here])]
    by_cases room : block.passed < block.skip
    · obtain ⟨left, split⟩ : ∃ left, block.skip - block.passed = left + 1 :=
        ⟨block.skip - block.passed - 1, by omega⟩
      have less : block.skip - (block.passed + 1) = left := by omega
      have same : ({ block with passed := block.passed + 1 } : OpenBlock Target).behind body =
          block.behind (node :: body) := by
        simp [OpenBlock.behind, OpenBlock.kept, split, less]
        omega
      rw [if_pos room, pure_bind]
      dsimp only
      rw [ih _ _ later, same, position]
      simp [OpenBlock.kept, split, less]
    · have none_left : block.skip - block.passed = 0 := by omega
      have same : ({ block with stale := node :: block.stale } : OpenBlock Target).behind body =
          block.behind (node :: body) := by
        simp [OpenBlock.behind, OpenBlock.kept, none_left]
      rw [if_neg room, pure_bind]
      dsimp only
      rw [ih _ _ later, same, position]
      simp [OpenBlock.kept, none_left]

theorem scan_cut (line : Nat) (cut : List Piece) (cuts : embedding.markers.Cuts cut) :
    embedding.scan document line .outside (cut.flatMap Piece.nodes) =
      embedding.renewAll document line cut := by
  induction cut generalizing line with
  | nil => rfl
  | cons piece rest ih =>
    rw [List.flatMap_cons]
    cases piece with
    | plain node =>
      obtain ⟨outside, others⟩ := cuts
      rw [Piece.nodes, List.singleton_append, scan, step, outside, renewAll, ← ih _ others]
      rfl
    | block start parameter body stop =>
      obtain ⟨opening, clean, closing, others⟩ := cuts
      have behind_stop : line + 1 + body.length + 1 =
          line + (Piece.block start parameter body stop).nodes.length := by
        simp [Piece.nodes]; omega
      have nodes_eq : (Piece.block start parameter body stop).nodes ++ rest.flatMap Piece.nodes =
          start :: (body ++ stop :: rest.flatMap Piece.nodes) := by simp [Piece.nodes]
      rw [nodes_eq, scan, step, opening, renewAll, renew]
      simp only [bind_assoc, pure_bind]
      refine bind_congr fun asked => ?_
      rw [scan_body embedding document _ _ _ _ clean, scan, step, if_pos closing, behind_stop]
      simp only [bind_assoc, pure_bind, ih _ others]
      refine bind_congr fun text => bind_congr fun nodes => ?_
      simp [OpenBlock.behind, OpenBlock.kept, renewed, keptTail, List.rtake_eq_reverse_take_reverse]
    | unclosed start parameter body =>
      obtain ⟨opening, clean, rfl⟩ := cuts
      have ending := fun block => scan_body embedding document (line + 1) block body [] clean
      simp only [List.append_nil] at ending
      rw [List.flatMap_nil, List.append_nil, Piece.nodes, scan, step, opening, renewAll, renew]
      simp only [bind_assoc, pure_bind]
      refine bind_congr fun asked => ?_
      rw [ending, scan]
      rfl

/-- The pass over a document renews the parts into which its markers cut it. -/
theorem embed_eq_renewAll (nodes : List String) :
    embedding.embed document nodes =
      embedding.renewAll document 1 (embedding.markers.pieces nodes) := by
  have whole := scan_cut embedding document 1 _ (embedding.markers.cuts_pieces nodes)
  rwa [Markers.nodes_pieces] at whole

end Embedding

end Transclude
