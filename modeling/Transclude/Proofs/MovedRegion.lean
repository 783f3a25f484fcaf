import Mathlib.Data.List.Forall2
import Transclude.Proofs.DefaultMarkers
import Transclude.Proofs.LeadingBlanks
import Transclude.Proofs.RegionAsFile
import Transclude.Settings

/-!
A region that is moved deeper in its source: the same blanks are put in front of all lines but those
of the region that do not share its indentation, as empty lines do not. The markers are still
recognised, with the same parameters, so the same lines make up the region. Taking the indentation
of its first line from all of them takes away what was put in front, and the same text is embedded.
-/

namespace Transclude

namespace Indent

/-- Spaces and tabs. -/
def AllBlank (blanks : String) : Prop := ∀ c ∈ blanks.toList, isBlank c = true

/-- A line that begins with a lead, moved by some blanks; any other line stays. -/
def deepen (blanks : String) (lead : List Char) (line : String) : String :=
  if lead.isPrefixOf line.toList then blanks ++ line else line

variable {blanks : String} {lead : List Char} {line : String}

theorem deepen_of_lead (begins : lead <+: line.toList) : deepen blanks lead line = blanks ++ line :=
  if_pos (List.isPrefixOf_iff_prefix.mpr begins)

theorem deepen_of_not_lead (other : ¬lead <+: line.toList) : deepen blanks lead line = line :=
  if_neg fun begins => other (List.isPrefixOf_iff_prefix.mp begins)

theorem deepen_eq_or (blanks : String) (lead : List Char) (line : String) :
    deepen blanks lead line = line ∨ deepen blanks lead line = blanks ++ line := by
  by_cases begins : lead <+: line.toList
  · exact .inr (deepen_of_lead begins)
  · exact .inl (deepen_of_not_lead begins)

theorem strip_of_not_lead (other : ¬lead <+: line.toList) : strip lead line = line :=
  if_neg fun begins => other (List.isPrefixOf_iff_prefix.mp begins)

theorem strip_append (front : String) (begins : lead <+: line.toList) :
    strip (front.toList ++ lead) (front ++ line) = strip lead line := by
  have longer : front.toList ++ lead <+: (front ++ line).toList := by
    rw [String.toList_append, List.prefix_append_right_inj]
    exact begins
  rw [strip, strip, if_pos (List.isPrefixOf_iff_prefix.mpr longer),
    if_pos (List.isPrefixOf_iff_prefix.mpr begins), List.length_append, ← List.drop_drop,
    String.toList_append, List.drop_left]

theorem indent_append (blank : AllBlank blanks) (line : String) :
    indent (blanks ++ line) = blanks.toList ++ indent line := by
  rw [indent, String.toList_append, List.takeWhile_append_of_pos blank, indent]

/-- A longer lead takes from a moved line what the lead takes from the line. -/
theorem strip_deepen (blank : AllBlank blanks) (lead_blank : ∀ c ∈ lead, isBlank c = true)
    (aligned : lead <+: line.toList ∨ indent line = []) :
    strip (blanks.toList ++ lead) (deepen blanks lead line) = strip lead line := by
  by_cases begins : lead <+: line.toList
  · rw [deepen_of_lead begins, strip_append blanks begins]
  · -- The line does not begin with a blank, as a lead that is not empty does.
    have flush : indent line = [] := aligned.resolve_left begins
    have longer : ¬blanks.toList ++ lead <+: line.toList := by
      rintro ⟨after, split⟩
      have all : ∀ c ∈ blanks.toList ++ lead, isBlank c = true :=
        List.forall_mem_append.mpr ⟨blank, lead_blank⟩
      rw [indent, ← split, List.takeWhile_append_of_pos all, List.append_assoc] at flush
      simp only [List.append_eq_nil_iff] at flush
      exact begins (flush.2.1 ▸ List.nil_prefix)
    rw [deepen_of_not_lead begins, strip_of_not_lead longer, strip_of_not_lead begins]

theorem indent_blank (line : String) : ∀ c ∈ indent line, isBlank c = true :=
  fun _ member => List.mem_takeWhile_imp member

/-- Taking the indentation of the first line forgets by how much a text was moved. -/
theorem dedent_deepen (blank : AllBlank blanks) {first : String} {rest : List String}
    (aligned : ∀ line ∈ first :: rest, indent first <+: line.toList ∨ indent line = []) :
    dedent leadingBlanks ((first :: rest).map (deepen blanks (indent first))) =
      dedent leadingBlanks (first :: rest) := by
  have moved : deepen blanks (indent first) first = blanks ++ first :=
    deepen_of_lead (List.takeWhile_prefix _)
  rw [List.map_cons, dedent_cons, dedent_cons, ← List.map_cons (f := deepen blanks (indent first)),
    List.map_map, moved, indent_append blank]
  exact List.map_congr_left fun line member =>
    strip_deepen blank (indent_blank first) (aligned line member)

end Indent

open Indent (AllBlank isBlank indent deepen deepen_eq_or)

section

variable {blanks : String} (blank : AllBlank blanks)

/-! Markers behind blanks. -/

include blank

theorem split_behind_blanks {c : Char} (solid : isBlank c = false) {text front after : List Char}
    (split : blanks.toList ++ text = front ++ c :: after) :
    ∃ before, front = blanks.toList ++ before ∧ text = before ++ c :: after := by
  rcases List.append_eq_append_iff.mp split with ⟨before, rfl, same⟩ | ⟨before, same, other⟩
  · exact ⟨before, rfl, same⟩
  · cases before with
    | nil => exact ⟨[], by simpa using same.symm, other.symm⟩
    | cons d before =>
      obtain ⟨rfl, -⟩ := List.cons.inj other
      have inside := blank c (by rw [same]; simp)
      rw [solid] at inside
      cases inside

theorem Pattern.firstParameter_behind_blanks {c : Char} (solid : isBlank c = false)
    {lead text parameter : List Char} :
    FirstParameter (c :: lead) (blanks.toList ++ text) parameter ↔
      FirstParameter (c :: lead) text parameter := by
  have place : ∀ front after, blanks.toList ++ text = front ++ c :: lead ++ after →
      ∃ before, front = blanks.toList ++ before ∧ text = before ++ c :: lead ++ after := by
    intro front after split
    rw [List.append_assoc, List.cons_append] at split
    obtain ⟨before, behind, same⟩ := split_behind_blanks blank solid split
    exact ⟨before, behind, by rw [same, List.append_assoc, List.cons_append]⟩
  -- All places of the marker are moved by the length of the blanks, so their order is the same.
  constructor
  · rintro ⟨front, after, split, known, nonempty, least⟩
    obtain ⟨before, rfl, same⟩ := place front after split
    refine ⟨before, after, same, known, nonempty, fun other more here solid_next => ?_⟩
    have shorter := least (blanks.toList ++ other) more (by rw [here]; simp) solid_next
    rw [List.length_append, List.length_append] at shorter
    exact Nat.le_of_add_le_add_left shorter
  · rintro ⟨front, after, split, known, nonempty, least⟩
    refine ⟨blanks.toList ++ front, after, by rw [split]; simp, known, nonempty,
      fun other more here solid_next => ?_⟩
    obtain ⟨before, rfl, same⟩ := place other more here
    have shorter := least before more same solid_next
    rw [List.length_append, List.length_append]
    exact Nat.add_le_add_left shorter _

theorem Markers.parameter?_behind_blanks (node : String) :
    (Markers.standard .range).parameter? (blanks ++ node) =
      (Markers.standard .range).parameter? node := by
  have word : ("range" ++ ":").toList = 'r' :: "ange:".toList := by decide
  ext parameter
  show (Pattern.startMarker "range").capture? (blanks ++ node) = some parameter ↔
    (Pattern.startMarker "range").capture? node = some parameter
  rw [Pattern.capture?_startMarker, Pattern.capture?_startMarker, word, String.toList_append]
  exact Pattern.firstParameter_behind_blanks blank rfl

theorem Markers.isStop_behind_blanks (node : String) :
    (Markers.standard .range).isStop (blanks ++ node) = (Markers.standard .range).isStop node := by
  have word : "range".toList = 'r' :: "ange".toList := by decide
  rw [Bool.eq_iff_iff]
  show (Pattern.endMarker "range").isMatch (blanks ++ node) = true ↔
    (Pattern.endMarker "range").isMatch node = true
  rw [Pattern.isMatch_endMarker (by decide), Pattern.isMatch_endMarker (by decide),
    String.toList_append, word]
  constructor
  · rintro ⟨front, c, after, split, inside⟩
    rw [List.append_assoc, List.cons_append] at split
    obtain ⟨before, -, same⟩ := split_behind_blanks blank rfl split
    exact ⟨before, c, after, by rw [same]; simp, inside⟩
  · rintro ⟨front, c, after, split, inside⟩
    exact ⟨blanks.toList ++ front, c, after, by rw [split]; simp, inside⟩

theorem RegionFilter.opens_behind_blanks (name node : String) :
    (named name).opens (blanks ++ node) = (named name).opens node := by
  unfold opens named
  rw [Markers.parameter?_behind_blanks blank]

end

namespace RegionPart

/-- A part in which the kept lines are changed in one way and all others in another. -/
def map (keptLine other : String → String) : RegionPart → RegionPart
  | outside node => outside (other node)
  | region start lines stop => region (other start) (lines.map keptLine) (other stop)
  | unclosed start lines => unclosed (other start) (lines.map other)

variable {keptLine other : String → String}

theorem forall₂_map (Changed : String → String → Prop)
    (kept : ∀ node, Changed node (keptLine node)) (others : ∀ node, Changed node (other node))
    (parts : List RegionPart) :
    List.Forall₂ Changed (parts.flatMap nodes) ((parts.map (map keptLine other)).flatMap nodes) := by
  have all : ∀ {change : String → String}, (∀ node, Changed node (change node)) →
      ∀ lines : List String, List.Forall₂ Changed lines (lines.map change) :=
    fun changed lines => List.forall₂_map_right_iff.mpr (List.forall₂_same.mpr fun node _ =>
      changed node)
  induction parts with
  | nil => exact .nil
  | cons part rest ih =>
    refine List.rel_append ?_ ih
    cases part with
    | outside node => exact .cons (others node) .nil
    | region start lines stop =>
      exact List.rel_append (.cons (others start) (all kept lines)) (.cons (others stop) .nil)
    | unclosed start lines => exact .cons (others start) (all others lines)

end RegionPart

namespace RegionFilter

section

variable {filter : RegionFilter} {keptLine other : String → String}

theorem parts_cons_outside {node : String} (closed : filter.opens node ≠ .ok true)
    (rest : List String) : filter.parts (node :: rest) = .outside node :: filter.parts rest := by
  rw [parts]
  split
  · next opening => exact absurd opening closed
  · rfl

theorem parts_cons_region {node stop : String} {lines : List String}
    (opening : filter.opens node = .ok true)
    (clean : ∀ line ∈ lines, filter.markers.isStop line = false)
    (closing : filter.markers.isStop stop = true) (after : List String) :
    filter.parts (node :: (lines ++ stop :: after)) =
      .region node lines stop :: filter.parts after := by
  have ends := Markers.afterBody_append_stop clean closing after
  rw [parts, opening]
  dsimp only
  split
  · next nothing => rw [ends] at nothing; cases nothing
  · next found =>
    rw [ends] at found
    cases found
    rw [Markers.body_append_stop clean closing]

theorem parts_cons_unclosed {node : String} {lines : List String}
    (opening : filter.opens node = .ok true)
    (clean : ∀ line ∈ lines, filter.markers.isStop line = false) :
    filter.parts (node :: lines) = [.unclosed node lines] := by
  have ends := Markers.afterBody_eq_nil clean
  rw [parts, opening]
  dsimp only
  split
  · rfl
  · next found => rw [ends] at found; cases found

/-- A change that a filter does not see leaves the parts of a document where they are. -/
theorem parts_map (opens : ∀ node, filter.opens (other node) = filter.opens node)
    (stops : ∀ node, filter.markers.isStop (other node) = filter.markers.isStop node)
    (kept : ∀ node, filter.markers.isStop (keptLine node) = filter.markers.isStop node)
    (nodes : List String) :
    filter.parts (((filter.parts nodes).map (.map keptLine other)).flatMap RegionPart.nodes) =
      (filter.parts nodes).map (.map keptLine other) := by
  fun_induction parts filter nodes with
  | case1 => rw [List.map_nil, List.flatMap_nil, parts]
  | case2 node rest opening ending =>
    have clean : ∀ line ∈ rest.map other, filter.markers.isStop line = false := by
      have whole := filter.markers.body_append_afterBody rest
      rw [ending, List.append_nil] at whole
      intro line member
      obtain ⟨before, here, rfl⟩ := List.mem_map.mp member
      rw [stops]
      exact filter.markers.body_clean rest before (whole.symm ▸ here)
    have again : filter.opens (other node) = .ok true := (opens node).trans opening
    rw [List.map_singleton, List.flatMap_singleton]
    exact parts_cons_unclosed again clean
  | case3 node rest opening stop after closing ih =>
    have clean : ∀ line ∈ (filter.markers.body rest).map keptLine,
        filter.markers.isStop line = false := by
      intro line member
      obtain ⟨before, here, rfl⟩ := List.mem_map.mp member
      rw [kept]
      exact filter.markers.body_clean rest before here
    have again : filter.opens (other node) = .ok true := (opens node).trans opening
    have ends : filter.markers.isStop (other stop) = true :=
      (stops stop).trans (filter.markers.isStop_of_afterBody closing)
    rw [List.map_cons, List.flatMap_cons, RegionPart.map, RegionPart.nodes, List.append_assoc,
      List.cons_append, List.singleton_append, parts_cons_region again clean ends, ih]
  | case4 node rest closed ih =>
    have still : filter.opens (other node) ≠ .ok true := fun same =>
      closed ((opens node).symm.trans same)
    rw [List.map_cons, List.flatMap_cons, RegionPart.map, RegionPart.nodes, List.singleton_append,
      parts_cons_outside still, ih]

/-- What is kept of a document is changed as the kept lines are. -/
theorem extract_map (opens : ∀ node, filter.opens (other node) = filter.opens node)
    (stops : ∀ node, filter.markers.isStop (other node) = filter.markers.isStop node)
    (kept : ∀ node, filter.markers.isStop (keptLine node) = filter.markers.isStop node)
    {document : Path} {nodes output : List String}
    (went : (filter.extract document nodes).outcome = .ok output) (document' : Path) :
    (filter.extract document'
      (((filter.parts nodes).map (.map keptLine other)).flatMap RegionPart.nodes)).outcome =
        .ok (output.map keptLine) := by
  obtain ⟨reads, closed, rfl⟩ := extract_eq_ok.mp went
  rw [extract_eq_ok, parts_map opens stops kept, List.forall_mem_map, List.forall_mem_map,
    List.map_flatMap, List.flatMap_map]
  refine ⟨fun part member => ?_, fun part member => ?_, List.flatMap_congr fun part member => ?_⟩
  · have known := reads part member
    cases part with
    | region _ _ _ | unclosed _ _ => trivial
    | outside node =>
      rw [Reads, ← exists_opens_iff] at known
      rw [RegionPart.map, Reads, ← exists_opens_iff, opens]
      exact known
  · have known := closed part member
    cases part with
    | outside _ | region _ _ _ => trivial
    | unclosed _ _ => exact known
  · cases part with
    | outside _ | unclosed _ _ => rfl
    | region _ _ _ => rfl

end

/-- A document with blanks put in front of all lines but those of the regions of a name that do not
begin with a lead. -/
def deepened (filter : RegionFilter) (blanks : String) (lead : List Char) (nodes : List String) :
    List String :=
  ((filter.parts nodes).map (.map (deepen blanks lead) (blanks ++ ·))).flatMap RegionPart.nodes

variable {blanks : String}

/-- The moved region is extracted from the document in which it is moved. -/
theorem extract_deepened (blank : AllBlank blanks) (lead : List Char) {name : String}
    {document : Path} {nodes output : List String}
    (went : ((named name).extract document nodes).outcome = .ok output) (document' : Path) :
    ((named name).extract document' ((named name).deepened blanks lead nodes)).outcome =
      .ok (output.map (deepen blanks lead)) := by
  refine extract_map (opens_behind_blanks blank name) (Markers.isStop_behind_blanks blank)
    (fun node => ?_) went document'
  rcases deepen_eq_or blanks lead node with same | moved
  · rw [same]
  · rw [moved]
    exact Markers.isStop_behind_blanks blank node

end RegionFilter

/-! Blanks in front of the lines of a text. -/

section

variable {blanks : String}

theorem cutLines_behind {front line : List Char} (inside : '\n' ∉ front)
    (whole : cutLines line = [line]) : cutLines (front ++ line) = [front ++ line] := by
  induction front with
  | nil => exact whole
  | cons c front ih =>
    rw [List.mem_cons, not_or] at inside
    rw [List.cons_append, cutLines, if_neg (Ne.symm inside.1), ih inside.2]

theorem isLine_behind_blanks (blank : AllBlank blanks) {line : String} (whole : IsLine line) :
    IsLine (blanks ++ line) := by
  have cut : cutLines line.toList = [line.toList] := by
    have known := congrArg (List.map String.toList) whole
    have same : String.toList ∘ String.ofList = id := funext fun _ => String.toList_ofList
    rwa [textLines, List.map_map, same, List.map_id] at known
  have inside : '\n' ∉ blanks.toList := fun member => absurd (blank _ member) (by decide)
  rw [IsLine, textLines, String.toList_append, cutLines_behind inside cut, List.map_singleton,
    ← String.toList_append, String.ofList_toList]

theorem ended_append (front : String) {line : String} (ended : Ended line) :
    Ended (front ++ line) := by
  rw [Ended, String.toList_append, List.getLast?_append, ended]
  rfl

theorem forall_mem_of_forall₂ {Changed : String → String → Prop} {Keeps : String → Prop}
    (keeps : ∀ node other, Changed node other → Keeps node → Keeps other)
    {nodes others : List String} (changed : List.Forall₂ Changed nodes others)
    (all : ∀ node ∈ nodes, Keeps node) : ∀ other ∈ others, Keeps other := by
  induction changed with
  | nil => exact List.forall_mem_nil _
  | cons first rest ih =>
    rw [List.forall_mem_cons] at all ⊢
    exact ⟨keeps _ _ first all.1, ih all.2⟩

/-- The lines of a document stay its lines when blanks are put in front of them. -/
theorem textLines_render_deepened (blank : AllBlank blanks) (filter : RegionFilter)
    (lead : List Char) (text : String) :
    textLines (render (filter.deepened blanks lead (textLines text))) =
      filter.deepened blanks lead (textLines text) := by
  have changed : List.Forall₂ (fun node other => other = node ∨ other = blanks ++ node)
      (textLines text) (filter.deepened blanks lead (textLines text)) := by
    have known := RegionPart.forall₂_map (fun node other => other = node ∨ other = blanks ++ node)
      (deepen_eq_or blanks lead) (fun node => .inr rfl) (filter.parts (textLines text))
    rwa [filter.nodes_parts] at known
  have joined : Joined (filter.deepened blanks lead (textLines text)) := by
    have fronts := List.forall₂_take ((textLines text).length - 1) changed
    rw [← List.dropLast_eq_take, changed.length_eq, ← List.dropLast_eq_take] at fronts
    refine forall_mem_of_forall₂ ?_ fronts (joined_textLines text)
    rintro node _ (rfl | rfl) ended
    · exact ended
    · exact ended_append blanks ended
  have lines : ∀ node ∈ filter.deepened blanks lead (textLines text), IsLine node := by
    refine forall_mem_of_forall₂ ?_ changed fun node member => isLine_of_mem_textLines member
    rintro node _ (rfl | rfl) whole
    · exact whole
    · exact isLine_behind_blanks blank whole
  rw [textLines_render joined, flatMap_textLines lines]

end

/-! The embedded text. -/

/-- The rules for embedded regions that settings describe. -/
theorem Settings.inner_of_mem_rules {settings : Settings} {rules : List Rule}
    (made : settings.rules = .ok rules) {markers : Markers} {defaultSkip : Nat} {inner : List Rule}
    (member : Rule.maprange markers defaultSkip inner ∈ rules) :
    inner = settings.maprange.inner := by
  rw [Settings.rules] at made
  cases found : settings.markers with
  | error failure => rw [found] at made; cases made
  | ok both =>
    rw [found] at made
    cases made
    simp only [List.mem_cons, Rule.maprange.injEq, reduceCtorEq, false_or, List.not_mem_nil,
      or_false] at member
    exact member.2.2

/-- What comes after taking the indentation of the first line away depends on what is left only. -/
theorem outcome_applyAll_inner {held : RegionSection} (dedents : held.disableDedent = false)
    (files : Opener) (document : Path) (nodes : List String) :
    (Rule.applyAll files held.inner document nodes).outcome =
      .ok (if held.disableReindent then Indent.dedent Indent.leadingBlanks nodes
        else Indent.reindent (Indent.effectiveWidth held.indentWidth)
          (Indent.dedent Indent.leadingBlanks nodes)) := by
  have dedented : (Rule.apply files (.dedent Indent.leadingBlanks) document nodes).outcome =
      .ok (Indent.dedent Indent.leadingBlanks nodes) := by rw [Rule.apply]; rfl
  rw [RegionSection.inner, dedents, if_neg Bool.false_ne_true, List.singleton_append, Rule.applyAll,
    Run.outcome_bind, dedented]
  cases held.disableReindent with
  | true => rfl
  | false =>
    show (Rule.applyAll files [.reindent held.indentWidth] document _).outcome = _
    rw [Rule.applyAll, Run.outcome_bind, Indent.outcome_reindent]
    rfl

/-- A region that is moved deeper in its source is embedded as before, with the rules that settings
describe when indentation is taken away. All lines are moved by the same spaces and tabs, but for
those of the region that do not begin with the indentation of its first line; these must not be
indented at all. -/
theorem load_deepened {settings : Settings} {rules : List Rule}
    (made : settings.rules = .ok rules) {markers : Markers} {defaultSkip : Nat} {inner : List Rule}
    (built : Rule.maprange markers defaultSkip inner ∈ rules)
    (dedents : settings.maprange.disableDedent = false)
    {files moved : Opener} {source copy : Path} {stream : Stream} {nodes rest : List String}
    {name first blanks : String} (opens : files source = .ok stream)
    (read : stream.lines = .ok nodes)
    (extracted : ((RegionFilter.named name).extract source nodes).outcome = .ok (first :: rest))
    (blank : AllBlank blanks)
    (aligned : ∀ line ∈ first :: rest, indent first <+: line.toList ∨ indent line = [])
    (kept : moved copy = .ok (.ofText
      (render ((RegionFilter.named name).deepened blanks (indent first) nodes)))) :
    ∃ text, (EmbedKind.region.load files inner (source, name)).outcome = .ok text ∧
      (EmbedKind.region.load moved inner (copy, name)).outcome = .ok text := by
  obtain rfl := Settings.inner_of_mem_rules made built
  have moved_read : (Stream.ofText
      (render ((RegionFilter.named name).deepened blanks (indent first) nodes))).lines =
        .ok ((RegionFilter.named name).deepened blanks (indent first) nodes) := by
    obtain ⟨text, -, rfl⟩ := Stream.lines_eq_ok.mp read
    rw [Stream.lines_ofText, textLines_render_deepened blank]
  have moved_extracted := RegionFilter.extract_deepened blank (indent first) extracted copy
  rw [outcome_load_region opens read extracted,
    outcome_load_region kept moved_read moved_extracted, outcome_applyAll_inner dedents,
    outcome_applyAll_inner dedents, Indent.dedent_deepen blank aligned]
  exact ⟨_, rfl, rfl⟩

/-- A region indented by a tab and two spaces, with an empty line and two levels, is moved by a space
and a tab. -/
theorem listing_embeds_same_when_moved :
    let source := "/* range:n */\n\t  a\n\n\t      b\n/* range.end */\n"
    let moved := " \t/* range:n */\n \t\t  a\n\n \t\t      b\n \t/* range.end */\n"
    let inner := [Rule.dedent Indent.leadingBlanks, .reindent 2]
    moved = render ((RegionFilter.named "n").deepened " \t" "\t  ".toList (textLines source)) ∧
      ∃ text, (EmbedKind.region.load (fun _ => .ok (.ofText source)) inner
          (⟨"f"⟩, "n")).outcome = .ok text ∧
        (EmbedKind.region.load (fun _ => .ok (.ofText moved)) inner
          (⟨"f"⟩, "n")).outcome = .ok text := by
  intro source moved inner
  let filter := RegionFilter.named "n"
  let region := ["\t  a\n", "\n", "\t      b\n"]
  have lines : textLines source =
      "/* range:n */\n" :: (region ++ ["/* range.end */\n"]) := by decide
  have opening : filter.opens "/* range:n */\n" = .ok true :=
    RegionFilter.opens_eq_true.mpr
      ⟨"n", (Markers.parameter?_standard .range _).trans (by decide), by with_unfolding_all rfl⟩
  have clean : ∀ line ∈ region, filter.markers.isStop line = false := by
    show ∀ line ∈ ["\t  a\n", "\n", "\t      b\n"], _
    simp only [filter, RegionFilter.named, Markers.isStop_standard]
    decide
  have closing : filter.markers.isStop "/* range.end */\n" = true :=
    (Markers.isStop_standard .range _).trans (by decide)
  have extracted : (filter.extract ⟨"f"⟩ (textLines source)).outcome = .ok region := by
    rw [lines]
    exact RegionFilter.outcome_extract_region ⟨"f"⟩ [] region [] rfl opening clean closing
  have parts : filter.parts (textLines source) =
      [.region "/* range:n */\n" region "/* range.end */\n"] := by
    rw [lines, RegionFilter.parts_cons_region opening clean closing, RegionFilter.parts]
  have text : moved = render (filter.deepened " \t" "\t  ".toList (textLines source)) := by
    rw [RegionFilter.deepened, parts]
    rfl
  obtain ⟨both, made⟩ : ∃ both, ({} : Settings).markers = .ok both :=
    ⟨_, by with_unfolding_all rfl⟩
  let rules : List Rule := [.mapfile both.1 0 [.reindent 2], .maprange both.2 0 inner]
  have described : ({} : Settings).rules = .ok rules := by
    rw [Settings.rules, made]
    rfl
  have built : Rule.maprange both.2 0 inner ∈ rules :=
    List.mem_cons_of_mem _ (List.mem_singleton_self _)
  let files : Opener := fun _ => .ok (.ofText source)
  let others : Opener := fun _ => .ok (.ofText moved)
  have opens : files ⟨"f"⟩ = .ok (.ofText source) := rfl
  have indentation : indent "\t  a\n" = "\t  ".toList := by decide
  have blank : AllBlank " \t" := by simp [AllBlank, isBlank]
  have aligned : ∀ line ∈ region, indent "\t  a\n" <+: line.toList ∨ indent line = [] := by decide
  have kept : others ⟨"f"⟩ = .ok (.ofText
      (render (filter.deepened " \t" (indent "\t  a\n") (textLines source)))) := by
    rw [indentation, ← text]
  exact ⟨text, load_deepened described built rfl opens (Stream.lines_ofText source) extracted blank
    aligned kept⟩

end Transclude
