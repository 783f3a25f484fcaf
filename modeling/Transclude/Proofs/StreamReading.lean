import Transclude.Proofs.EmbeddingRule
import Transclude.Proofs.TextLines

/-!
Two ways to read a stream. Line by line each line is decoded on its own, as a whole all bytes at
once. Since the bytes of a line end are part of no other character, cutting the bytes at them
neither hides nor makes an encoding that is not valid: both ways succeed on the same streams, and
give the same text.
-/

namespace Transclude

namespace Stream

/-- The lines of a byte sequence are its bytes, in order. -/
theorem flatten_byteLines (bytes : List UInt8) : (byteLines bytes).flatten = bytes := by
  fun_induction byteLines bytes with
  | case1 => rfl
  | case2 bytes nonempty clean => simp
  | case3 bytes nonempty stop after found ih =>
    rw [List.flatten_cons, ih, List.append_assoc, List.singleton_append, ← found,
      List.takeWhile_append_dropWhile]

theorem toByteArray_encode (text : List Char) : (encode text).toByteArray = text.utf8Encode := by
  rw [List.utf8Encode]
  rfl

theorem isValidUTF8_iff {bytes : List UInt8} :
    bytes.toByteArray.IsValidUTF8 ↔ ∃ text : String, bytes = encode text.toList := by
  constructor
  · rintro ⟨chars, same⟩
    refine ⟨String.ofList chars, ?_⟩
    rw [String.toList_ofList]
    exact List.toByteArray_inj.mp (same.trans (toByteArray_encode chars).symm)
  · rintro ⟨text, rfl⟩
    rw [toByteArray_encode]
    exact ByteArray.isValidUTF8_utf8Encode

/-- Bytes are decoded to the text of which they are the encoding. -/
theorem decode_eq_ok {bytes : List UInt8} {text : String} :
    decode bytes = .ok text ↔ bytes = encode text.toList := by
  constructor
  · intro went
    by_cases valid : bytes.toByteArray.IsValidUTF8
    · obtain ⟨other, rfl⟩ := isValidUTF8_iff.mp valid
      rw [decode_encode, String.ofList_toList] at went
      cases went
      rfl
    · have same : (⟨bytes.toArray⟩ : ByteArray) = bytes.toByteArray :=
        ByteArray.ext List.data_toByteArray.symm
      rw [decode, same, String.fromUTF8?, dif_neg valid] at went
      cases went
  · rintro rfl
    rw [decode_encode, String.ofList_toList]

/-- Where lines can be read, the first of them can be decoded and the others read. -/
theorem readLines_cons_eq_ok {failure : Option IoError} {line : List UInt8}
    {rest : List (List UInt8)} {nodes : List String}
    (went : readLines failure (line :: rest) = .ok nodes) :
    ∃ text others, decode line = .ok text ∧ readLines failure rest = .ok others ∧
      nodes = text :: others := by
  have later : ((decode line).bind fun text => (readLines failure rest).bind fun others =>
      .ok (text :: others)) = .ok nodes := by
    rw [readLines] at went
    split at went
    · cases failure with
      | none => exact went
      | some error => cases went
    · exact went
  cases decoded : decode line with
  | error fault => rw [decoded] at later; cases later
  | ok text =>
    cases read : readLines failure rest with
    | error fault => rw [decoded, read] at later; cases later
    | ok others =>
      rw [decoded, read] at later
      exact ⟨text, others, rfl, rfl, (Except.ok.inj later).symm⟩

/-- Lines can be read when nothing fails behind them and each of them can be decoded. -/
theorem readLines_eq_ok {failure : Option IoError} {lines : List (List UInt8)}
    {nodes : List String} :
    readLines failure lines = .ok nodes ↔
      failure = none ∧ lines = nodes.map fun node => encode node.toList := by
  constructor
  · intro went
    induction lines generalizing nodes with
    | nil =>
      cases failure with
      | none => cases went; exact ⟨rfl, rfl⟩
      | some error => cases went
    | cons line rest ih =>
      obtain ⟨text, others, decoded, later, rfl⟩ := readLines_cons_eq_ok went
      obtain ⟨whole, same⟩ := ih later
      exact ⟨whole, by rw [List.map_cons, ← same, decode_eq_ok.mp decoded]⟩
  · rintro ⟨rfl, rfl⟩
    have known := readLines_encode (nodes.map String.toList)
    rw [List.map_map, List.map_map] at known
    exact known.trans (congrArg _ (by simp))

/-- A stream is read as a whole to the text of which it has the encoding. -/
theorem text_eq_ok {stream : Stream} {text : String} :
    stream.text = .ok text ↔ stream.failure = none ∧ stream.bytes = encode text.toList := by
  rw [Stream.text]
  cases stream.failure with
  | none => exact decode_eq_ok.trans (by simp)
  | some error => simp [atEnd, bind, Except.bind]

/-- A stream is read to the lines of the text of which it has the encoding. -/
theorem lines_eq_ok {stream : Stream} {nodes : List String} :
    stream.lines = .ok nodes ↔ ∃ text, stream.text = .ok text ∧ nodes = textLines text := by
  simp only [text_eq_ok]
  constructor
  · intro went
    obtain ⟨whole, cut⟩ := readLines_eq_ok.mp went
    -- The lines put together are a text, and the bytes are its encoding: each line was decoded.
    have bytes : stream.bytes = encode (render nodes).toList := by
      rw [← flatten_byteLines stream.bytes, cut, render, String.toList_join, encode,
        List.flatMap_assoc, List.flatMap_def]
      rfl
    refine ⟨render nodes, ⟨whole, bytes⟩, ?_⟩
    rw [lines, bytes, byteLines_encode, whole, readLines_encode] at went
    exact (Except.ok.inj went).symm
  · rintro ⟨text, ⟨whole, bytes⟩, rfl⟩
    rw [lines, bytes, byteLines_encode, whole, readLines_encode]
    rfl

/-- A stream can be read as a whole when nothing fails behind its bytes and these are valid. -/
theorem exists_text_iff {stream : Stream} :
    (∃ text, stream.text = .ok text) ↔
      stream.failure = none ∧ stream.bytes.toByteArray.IsValidUTF8 := by
  simp only [text_eq_ok, exists_and_left, isValidUTF8_iff]

/-- A stream can be read line by line when it can be read as a whole. -/
theorem exists_lines_iff {stream : Stream} :
    (∃ nodes, stream.lines = .ok nodes) ↔ ∃ text, stream.text = .ok text := by
  simp only [lines_eq_ok]
  constructor
  · rintro ⟨nodes, text, went, -⟩
    exact ⟨text, went⟩
  · rintro ⟨text, went⟩
    exact ⟨_, text, went, rfl⟩

end Stream

/-- A line is not empty, and a line end is the last thing in it. -/
theorem shape_of_mem_cutLines {text line : List Char} (member : line ∈ cutLines text) :
    line ≠ [] ∧ '\n' ∉ line.dropLast := by
  induction text using lines_cases with
  | empty => cases member
  | line front rest inside ih =>
    rw [cutLines_line inside] at member
    rcases List.mem_cons.mp member with rfl | later
    · rw [List.dropLast_concat]
      exact ⟨by simp, inside⟩
    · exact ih later
  | last front inside nonempty =>
    rw [cutLines_last inside nonempty] at member
    rw [List.mem_singleton.mp member]
    exact ⟨nonempty, fun later => inside (List.dropLast_subset front later)⟩

theorem shape_of_mem_textLines {text line : String} (member : line ∈ textLines text) :
    line ≠ "" ∧ '\n' ∉ line.toList.dropLast := by
  obtain ⟨chars, cut, rfl⟩ := List.mem_map.mp member
  have shape := shape_of_mem_cutLines cut
  rw [String.toList_ofList]
  refine ⟨fun blank => shape.1 ?_, shape.2⟩
  rw [← String.toList_ofList (l := chars), blank]
  rfl

theorem parse_eq_ok {path : Path} {stream : Stream} {nodes : List String} :
    (parse path stream).outcome = .ok nodes ↔ stream.lines = .ok nodes := by
  rw [parse, Run.outcome_within, Run.outcome_ofExcept]
  cases stream.lines <;> simp [Except.mapError]

section

variable {opener : Opener} {path : Path}

theorem access_eq_ok {stream : Stream} :
    (access opener path).outcome = .ok stream ↔ opener path = .ok stream := by
  rw [access, Run.outcome_note_bind, Run.outcome_ofExcept]
  cases opener path <;> simp [Except.mapError]

theorem readWhole_eq_ok_iff {text : String} :
    (readWhole opener path).outcome = .ok text ↔
      ∃ stream, opener path = .ok stream ∧ stream.text = .ok text := by
  rw [readWhole, Run.bind_eq_ok]
  refine exists_congr fun stream => and_congr access_eq_ok ?_
  rw [Run.outcome_ofExcept]
  cases stream.text <;> simp [Except.mapError]

theorem outcome_processWith {stream : Stream} {nodes : List String}
    (opens : opener path = .ok stream) (read : stream.lines = .ok nodes) (transform : Transform) :
    (processWith opener transform path).outcome = (transform path nodes).outcome.map render := by
  rw [processWith, Run.outcome_within, Run.outcome_note_bind, Run.outcome_bind,
    access_eq_ok.mpr opens]
  simp only [Except.bind]
  rw [Run.outcome_bind, parse_eq_ok.mpr read]
  simp only [Except.bind]
  rw [Run.outcome_bind, Run.outcome_within]
  cases (transform path nodes).outcome <;> rfl

theorem processWith_eq_ok {transform : Transform} {text : String} :
    (processWith opener transform path).outcome = .ok text ↔
      ∃ stream nodes output, opener path = .ok stream ∧ stream.lines = .ok nodes ∧
        (transform path nodes).outcome = .ok output ∧ text = render output := by
  rw [processWith, Run.outcome_within, Run.outcome_note_bind]
  simp only [Run.bind_eq_ok, access_eq_ok, parse_eq_ok, Run.outcome_within, Run.outcome_pure,
    Except.ok.injEq]
  constructor
  · rintro ⟨stream, opens, nodes, read, output, went, rfl⟩
    exact ⟨stream, nodes, output, opens, read, went, rfl⟩
  · rintro ⟨stream, nodes, output, opens, read, went, rfl⟩
    exact ⟨stream, opens, nodes, read, output, went, rfl⟩

end

/-- Rules that do not change the lines of a file. -/
def LeavesAsIs (opener : Opener) (rules : List Rule) (path : Path) : Prop :=
  ∀ stream lines, opener path = .ok stream → stream.lines = .ok lines →
    (Rule.applyAll opener rules path lines).outcome = .ok lines

/-- A file that the rules for it do not change is embedded as it is. -/
theorem loadFile_eq_ok_of_leavesAsIs {opener : Opener} {inner : List Rule} {target : Path}
    (same : LeavesAsIs opener inner target) {text : String} :
    (EmbedKind.file.load opener inner target).outcome = .ok text ↔
      (EmbedKind.file.load opener [] target).outcome = .ok text := by
  cases inner with
  | nil => rfl
  | cons rule rest =>
    show (processWith opener (Rule.applyAll opener (rule :: rest)) target).outcome = .ok text ↔
      (readWhole opener target).outcome = .ok text
    rw [processWith_eq_ok, readWhole_eq_ok_iff]
    constructor
    · rintro ⟨stream, nodes, output, opens, read, went, rfl⟩
      rw [same stream nodes opens read] at went
      cases went
      obtain ⟨text, whole, rfl⟩ := Stream.lines_eq_ok.mp read
      exact ⟨stream, opens, by rw [render_textLines, whole]⟩
    · rintro ⟨stream, opens, whole⟩
      have read := Stream.lines_eq_ok.mpr ⟨text, whole, rfl⟩
      exact ⟨stream, _, _, opens, read, same stream _ opens read, (render_textLines text).symm⟩

namespace EmbedRule

/-- What a rule that embeds files does where the rules for them do not change them. -/
theorem apply_eq_ok_of_leavesAsIs {opener : Opener} {markers : Markers} {defaultSkip : Nat}
    {inner : List Rule} {document : Path} {nodes : List String}
    (same : ∀ piece ∈ markers.pieces nodes, ∀ parameter target skip,
      piece.parameter? = some parameter →
      EmbedKind.file.decode document parameter = .ok (target, skip) →
      LeavesAsIs opener inner target) {output : List String} :
    ((Rule.mapfile markers defaultSkip inner).apply opener document nodes).outcome = .ok output ↔
      ((Rule.mapfile markers defaultSkip []).apply opener document nodes).outcome = .ok output := by
  let rule : List Rule → EmbedRule := fun rules => ⟨.file, markers, defaultSkip, rules⟩
  have content : ∀ piece ∈ markers.pieces nodes, ∀ parameter,
      piece.parameter? = some parameter →
      ((rule inner).embedding opener document).text? parameter =
        ((rule []).embedding opener document).text? parameter := by
    intro piece member parameter opens
    ext text
    simp only [Embedding.text?_eq_some, request_eq_ok]
    refine exists_congr fun target => exists_congr fun skip => exists_congr fun loaded =>
      and_congr_right fun asked => and_congr_left fun _ => ?_
    exact loadFile_eq_ok_of_leavesAsIs (same piece member parameter target skip opens asked)
  have ready : ∀ piece ∈ markers.pieces nodes,
      (((rule inner).embedding opener document).Ready piece ↔
        ((rule []).embedding opener document).Ready piece) := by
    intro piece member
    cases piece with
    | plain _ | unclosed _ _ _ => rfl
    | block start parameter body stop =>
      rw [Embedding.Ready, Embedding.Ready, content _ member parameter rfl]
  have renewal : ∀ piece ∈ markers.pieces nodes,
      ((rule inner).embedding opener document).renewal piece =
        ((rule []).embedding opener document).renewal piece := by
    intro piece member
    cases piece with
    | plain _ | unclosed _ _ _ => rfl
    | block start parameter body stop =>
      rw [Embedding.renewal, Embedding.renewal, Embedding.text, Embedding.text,
        content _ member parameter rfl]
      rfl
  have flat : (markers.pieces nodes).flatMap ((rule inner).embedding opener document).renewal =
      (markers.pieces nodes).flatMap ((rule []).embedding opener document).renewal :=
    List.flatMap_congr renewal
  rw [show Rule.mapfile markers defaultSkip inner = (rule inner).toRule from rfl,
    show Rule.mapfile markers defaultSkip [] = (rule []).toRule from rfl, apply_eq_ok, apply_eq_ok]
  exact and_congr (forall₂_congr ready) (by rw [flat])

end EmbedRule

/-- A stream is read line by line exactly when it is read as a whole: when nothing fails behind its
bytes and these are valid. The lines put together are the text, no line is empty, a line end is the
last thing in a line, and all lines but the last have one. So a file is embedded by rules that do
not change its lines just as it is without any. -/
theorem lines_agree_with_whole {opener : Opener} {path : Path} {stream : Stream}
    (opens : opener path = .ok stream) :
    let sound := stream.failure = none ∧ stream.bytes.toByteArray.IsValidUTF8
    ((∃ nodes, (parse path stream).outcome = .ok nodes) ↔ sound) ∧
    ((∃ text, (readWhole opener path).outcome = .ok text) ↔ sound) ∧
    (∀ nodes, (parse path stream).outcome = .ok nodes →
      (readWhole opener path).outcome = .ok (render nodes) ∧
      (∀ node ∈ nodes, node ≠ "" ∧ '\n' ∉ node.toList.dropLast) ∧
      ∀ node ∈ nodes.dropLast, node.toList.getLast? = some '\n') ∧
    ∀ markers defaultSkip inner document nodes,
      (∀ piece ∈ markers.pieces nodes, ∀ parameter target skip,
        piece.parameter? = some parameter →
        EmbedKind.file.decode document parameter = .ok (target, skip) →
        LeavesAsIs opener inner target) →
      ∀ output,
        ((Rule.mapfile markers defaultSkip inner).apply opener document nodes).outcome =
            .ok output ↔
          ((Rule.mapfile markers defaultSkip []).apply opener document nodes).outcome =
            .ok output := by
  intro sound
  have whole : ∀ text, (readWhole opener path).outcome = .ok text ↔ stream.text = .ok text := by
    intro text
    rw [readWhole_eq_ok_iff, opens]
    simp
  refine ⟨?_, ?_, fun nodes read => ?_, ?_⟩
  · simp only [parse_eq_ok]
    rw [Stream.exists_lines_iff, Stream.exists_text_iff]
  · simp only [whole]
    exact Stream.exists_text_iff
  · obtain ⟨text, went, rfl⟩ := Stream.lines_eq_ok.mp (parse_eq_ok.mp read)
    refine ⟨?_, fun node member => shape_of_mem_textLines member, joined_textLines text⟩
    rw [render_textLines, whole, went]
  · exact fun markers defaultSkip inner document nodes same output =>
      EmbedRule.apply_eq_ok_of_leavesAsIs same

theorem openEnded_read :
    let stream : Stream := ⟨[0xC3, 0xA9, 10, 120], none⟩
    let opener : Opener := fun _ => .ok stream
    opener ⟨"f"⟩ = .ok stream ∧
      (parse ⟨"f"⟩ stream).outcome = .ok ["é\n", "x"] ∧
      (readWhole opener ⟨"f"⟩).outcome = .ok "é\nx" := by
  intro stream opener
  have bytes : stream = .ofText "é\nx" := by decide
  have read : (parse ⟨"f"⟩ stream).outcome = .ok ["é\n", "x"] := by
    rw [parse_eq_ok, bytes, Stream.lines_ofText]
    cbv
  obtain ⟨-, -, agree, -⟩ :=
    lines_agree_with_whole (show opener ⟨"f"⟩ = .ok stream from rfl)
  exact ⟨rfl, read, (agree _ read).1⟩

end Transclude
