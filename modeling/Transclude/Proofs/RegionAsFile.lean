import Transclude.Proofs.DefaultMarkers
import Transclude.Proofs.PathSteps
import Transclude.Proofs.RegionCut
import Transclude.Proofs.StreamReading

/-!
A region embedded as if it were a file. What a region of a file holds can be kept as a file of its
own in the same directory. The lines of that file are the lines of the region, and a target leads to
the same place from both files, so the rules that are run on what is embedded do the same to the
region as to the file.
-/

namespace Transclude

/-- Outcomes that agree but for the name of a file: where something is left open in the source of a
text, the other failure names its copy. -/
inductive AgreeBut (source copy : Path) {α : Type} : Except Failure α → Except Failure α → Prop
  | ok (value : α) : AgreeBut source copy (.ok value) (.ok value)
  | failed (failure : Failure) : AgreeBut source copy (.error failure) (.error failure)
  | leftOpen (directive : Directive) (line : Nat) :
    AgreeBut source copy (.error (.unterminated directive source line))
      (.error (.unterminated directive copy line))

namespace AgreeBut

variable {source copy : Path} {α β : Type}

theorem refl (outcome : Except Failure α) : AgreeBut source copy outcome outcome := by
  cases outcome with
  | ok value => exact ok value
  | error failure => exact failed failure

theorem bind {first second : Run α} {next other : α → Run β}
    (agree : AgreeBut source copy first.outcome second.outcome)
    (later : ∀ value, AgreeBut source copy (next value).outcome (other value).outcome) :
    AgreeBut source copy (first >>= next).outcome (second >>= other).outcome := by
  rw [Run.outcome_bind, Run.outcome_bind]
  generalize first.outcome = one at agree
  generalize second.outcome = two at agree
  cases agree with
  | ok value => exact later value
  | failed failure => exact failed failure
  | leftOpen directive line => exact leftOpen directive line

theorem map {first second : Except Failure α} (agree : AgreeBut source copy first second)
    (change : α → β) : AgreeBut source copy (first.map change) (second.map change) := by
  cases agree with
  | ok value => exact ok (change value)
  | failed failure => exact failed failure
  | leftOpen directive line => exact leftOpen directive line

end AgreeBut

section

variable {source copy : Path}

/-- A pass over the regions of one text under two names. -/
theorem RegionFilter.agree_scan (filter : RegionFilter) (line : Nat) (state : RegionScan)
    (nodes : List String) :
    AgreeBut source copy (filter.scan source line state nodes).outcome
      (filter.scan copy line state nodes).outcome := by
  induction nodes generalizing line state with
  | nil =>
    cases state with
    | outside => exact .ok []
    | inside opened => exact .leftOpen .range opened
  | cons node rest ih =>
    rw [scan, scan]
    exact AgreeBut.bind (.refl _) fun after => AgreeBut.bind (ih _ _) fun others => .refl _

/-- The parts of one text brought up to date under two names. -/
theorem Embedding.agree_renewAll {Target : Type} (embedding : Embedding Target) (line : Nat)
    (cut : List Piece) :
    AgreeBut source copy (embedding.renewAll source line cut).outcome
      (embedding.renewAll copy line cut).outcome := by
  have part : ∀ line piece, AgreeBut source copy (embedding.renew source line piece).outcome
      (embedding.renew copy line piece).outcome := by
    intro line piece
    cases piece with
    | plain node => exact .ok [node]
    | block start parameter body stop => exact .refl _
    | unclosed start parameter body =>
      exact AgreeBut.bind (.refl _) fun asked => .leftOpen embedding.directive line
  induction cut generalizing line with
  | nil => exact .ok []
  | cons piece rest ih =>
    rw [renewAll, renewAll]
    exact AgreeBut.bind (part line piece) fun nodes => AgreeBut.bind (ih _) fun others => .refl _

theorem EmbedKind.request_eq (near : source.SameDirectory copy) (kind : EmbedKind)
    (parameter : String) : kind.request source parameter = kind.request copy parameter := by
  cases kind with
  | file => simp only [request, requestFile, near.resolve_eq]
  | region => simp only [request, requestRegion, near.resolve_eq]

theorem EmbedRule.embedding_eq (near : source.SameDirectory copy) (rule : EmbedRule)
    (opener : Opener) : rule.embedding opener source = rule.embedding opener copy := by
  rw [embedding, embedding, funext (EmbedKind.request_eq near rule.kind)]

theorem EmbedRule.agree_apply (near : source.SameDirectory copy) (rule : EmbedRule)
    (opener : Opener) (nodes : List String) :
    AgreeBut source copy (rule.toRule.apply opener source nodes).outcome
      (rule.toRule.apply opener copy nodes).outcome := by
  rw [outcome_apply, outcome_apply, embedding_eq near]
  exact Embedding.agree_renewAll _ _ _

/-- A rule does the same to one text under two names in a directory. -/
theorem Rule.agree_apply (near : source.SameDirectory copy) (opener : Opener) (rule : Rule)
    (nodes : List String) :
    AgreeBut source copy (rule.apply opener source nodes).outcome
      (rule.apply opener copy nodes).outcome := by
  cases rule with
  | mapfile markers defaultSkip inner =>
    exact EmbedRule.agree_apply near ⟨.file, markers, defaultSkip, inner⟩ opener nodes
  | maprange markers defaultSkip inner =>
    exact EmbedRule.agree_apply near ⟨.region, markers, defaultSkip, inner⟩ opener nodes
  | range filter =>
    rw [RegionFilter.outcome_apply_range, RegionFilter.outcome_apply_range]
    exact filter.agree_scan 1 .outside nodes
  | dedent lead => rw [Rule.apply]; exact .refl _
  | reindent width => rw [Rule.apply]; exact .refl _

theorem Rule.agree_applyAll (near : source.SameDirectory copy) (opener : Opener)
    (rules : List Rule) (nodes : List String) :
    AgreeBut source copy (Rule.applyAll opener rules source nodes).outcome
      (Rule.applyAll opener rules copy nodes).outcome := by
  induction rules generalizing nodes with
  | nil => rw [Rule.applyAll]; exact .refl _
  | cons rule rest ih =>
    rw [Rule.applyAll]
    exact AgreeBut.bind (Rule.agree_apply near opener rule nodes) ih

end

namespace RegionFilter

variable {filter : RegionFilter}

/-- What is kept of a document stands in front of a node that is not. -/
theorem mem_dropLast_of_extract {document : Path} {nodes output : List String}
    (went : (filter.extract document nodes).outcome = .ok output) :
    ∀ node ∈ output, node ∈ nodes.dropLast := by
  obtain ⟨-, closed, rfl⟩ := extract_eq_ok.mp went
  intro node member
  obtain ⟨part, here, kept⟩ := List.mem_flatMap.mp member
  have whole := filter.nodes_parts nodes
  obtain ⟨before, after, split⟩ := List.append_of_mem here
  rw [split, List.flatMap_append, List.flatMap_cons] at whole
  cases part with
  | outside _ => cases kept
  | unclosed start lines => exact (closed _ here).elim
  | region start lines stop =>
    -- A kept node stands in a closed region, so that at least an end marker follows.
    have cut : nodes = (before.flatMap RegionPart.nodes ++ [start]) ++
        (lines ++ stop :: after.flatMap RegionPart.nodes) := by
      rw [← whole, RegionPart.nodes]
      simp
    rw [cut, List.dropLast_append_of_ne_nil (by simp),
      List.dropLast_append_of_ne_nil (List.cons_ne_nil _ _)]
    exact List.mem_append_right _ (List.mem_append_left _ kept)

/-- The text of a region has the lines of the region. -/
theorem textLines_render_of_extract {document : Path} {text : String} {output : List String}
    (went : (filter.extract document (textLines text)).outcome = .ok output) :
    textLines (render output) = output := by
  have inside := mem_dropLast_of_extract went
  have ended : ∀ node ∈ output, Ended node :=
    fun node member => joined_textLines text node (inside node member)
  have lines : ∀ node ∈ output, IsLine node :=
    fun node member => isLine_of_mem_textLines (List.dropLast_subset _ (inside node member))
  rw [textLines_render fun node member => ended node (List.dropLast_subset _ member),
    flatMap_textLines lines]

end RegionFilter

section

variable {opener : Opener} {source copy : Path} {stream : Stream} {lines region : List String}
  {name : String}

/-- The rules for what is embedded get to see the region. -/
theorem outcome_load_region (opens : opener source = .ok stream) (read : stream.lines = .ok lines)
    (extracted : ((RegionFilter.named name).extract source lines).outcome = .ok region)
    (inner : List Rule) :
    (EmbedKind.region.load opener inner (source, name)).outcome =
      (Rule.applyAll opener inner source region).outcome.map render := by
  have filtered : (filterRegion (.named name) source lines).outcome = .ok region := extracted
  rw [EmbedKind.load, loadRegion, outcome_processWith opens read, Run.outcome_bind, filtered]
  rfl

/-- The rules for what is embedded get to see the lines of a text; without any the text is embedded
as it is. -/
theorem outcome_load_text (text : String) (kept : opener copy = .ok (.ofText text))
    (inner : List Rule) :
    (EmbedKind.file.load opener inner copy).outcome =
      (Rule.applyAll opener inner copy (textLines text)).outcome.map render := by
  cases inner with
  | nil =>
    have whole : (readWhole opener copy).outcome = .ok text :=
      readWhole_eq_ok_iff.mpr ⟨_, kept, Stream.text_eq_ok.mpr ⟨rfl, Stream.bytes_ofText text⟩⟩
    rw [EmbedKind.load, loadFile, List.isEmpty_nil, if_pos rfl, whole, Rule.applyAll]
    exact congrArg Except.ok (render_textLines text).symm
  | cons rule rest =>
    rw [EmbedKind.load, loadFile, List.isEmpty_cons, if_neg Bool.false_ne_true,
      outcome_processWith kept (Stream.lines_ofText text)]

/-- A region of a file is embedded as a file with its text would be that stands in the same
directory, with any rules for what is embedded; without any it is the text of the region. -/
theorem load_region_agrees_with_file (near : source.SameDirectory copy)
    (opens : opener source = .ok stream) (read : stream.lines = .ok lines)
    (extracted : ((RegionFilter.named name).extract source lines).outcome = .ok region)
    (kept : opener copy = .ok (.ofText (render region))) (inner : List Rule) :
    AgreeBut source copy (EmbedKind.region.load opener inner (source, name)).outcome
        (EmbedKind.file.load opener inner copy).outcome ∧
      (EmbedKind.region.load opener [] (source, name)).outcome = .ok (render region) := by
  have same : textLines (render region) = region := by
    obtain ⟨text, -, rfl⟩ := Stream.lines_eq_ok.mp read
    exact RegionFilter.textLines_render_of_extract extracted
  refine ⟨?_, ?_⟩
  · rw [outcome_load_region opens read extracted, outcome_load_text _ kept, same]
    exact (Rule.agree_applyAll near opener inner region).map render
  · rw [outcome_load_region opens read extracted, Rule.applyAll]
    rfl

end

/-- A file with a region in which a block stands, the text of the region as a file beside it, and
the file that the block asks for. -/
def regionAndCopy : FileSet :=
  ((FileSet.empty.insert ⟨"p/a"⟩
      (.readable (.ofText "range:r\nmapfile:c\nmapfile.end\nrange.end\n"))).insert ⟨"p/b"⟩
    (.readable (.ofText "mapfile:c\nmapfile.end\n"))).insert ⟨"p/c"⟩ (.readable (.ofText "x\n"))

theorem regionAndCopy_agree :
    let opener := regionAndCopy.opener
    let region := ["mapfile:c\n", "mapfile.end\n"]
    let inner := [Rule.mapfile (.standard .mapfile) 0 [], .reindent 4]
    opener ⟨"p/b"⟩ = .ok (.ofText (render region)) ∧
      AgreeBut ⟨"p/a"⟩ ⟨"p/b"⟩ (EmbedKind.region.load opener inner (⟨"p/a"⟩, "r")).outcome
        (EmbedKind.file.load opener inner ⟨"p/b"⟩).outcome := by
  intro opener region inner
  have opening : (RegionFilter.named "r").opens "range:r\n" = .ok true :=
    RegionFilter.opens_eq_true.mpr
      ⟨"r", (Markers.parameter?_standard .range _).trans (by decide), by with_unfolding_all rfl⟩
  have clean : ∀ node ∈ ["mapfile:c\n", "mapfile.end\n"],
      (RegionFilter.named "r").markers.isStop node = false := by
    simp only [RegionFilter.named, Markers.isStop_standard]
    decide
  have closing : (RegionFilter.named "r").markers.isStop "range.end\n" = true :=
    (Markers.isStop_standard .range _).trans (by decide)
  have extracted : ((RegionFilter.named "r").extract ⟨"p/a"⟩
      (textLines "range:r\nmapfile:c\nmapfile.end\nrange.end\n")).outcome = .ok region := by
    have cut := RegionFilter.outcome_extract_region ⟨"p/a"⟩ [] region [] rfl opening
      clean closing
    have lines : textLines "range:r\nmapfile:c\nmapfile.end\nrange.end\n" =
        "range:r\n" :: (region ++ ["range.end\n"]) := by decide
    rw [lines]
    exact cut
  have kept : opener ⟨"p/b"⟩ = .ok (.ofText (render region)) := rfl
  have near : Path.SameDirectory ⟨"p/a"⟩ ⟨"p/b"⟩ := rfl
  exact ⟨kept, (load_region_agrees_with_file near rfl (Stream.lines_ofText _) extracted kept
    inner).1⟩

end Transclude
