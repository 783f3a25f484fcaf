import Mathlib.Data.List.Basic
import Mathlib.Data.List.TakeWhile
import Transclude.Pipeline
import Transclude.Proofs.RunLaws

/-!
The lines of a text. Reading a text as bytes, line by line, gives its lines, since a line feed is
encoded by one byte that no other character uses. Texts that end their last line can be put
together without their lines running into one another.
-/

namespace Transclude

/-- The lines of a text, each with its line end; the last one may have none. -/
def cutLines : List Char → List (List Char)
  | [] => []
  | c :: rest =>
    if c = '\n' then [c] :: cutLines rest
    else
      match cutLines rest with
      | [] => [[c]]
      | line :: others => (c :: line) :: others

theorem cutLines_line {front : List Char} (inside : '\n' ∉ front) (rest : List Char) :
    cutLines (front ++ '\n' :: rest) = (front ++ ['\n']) :: cutLines rest := by
  induction front with
  | nil => rw [List.nil_append, cutLines, if_pos rfl, List.nil_append]
  | cons c front ih =>
    have other : c ≠ '\n' := fun same => inside (same ▸ List.mem_cons_self ..)
    have later : '\n' ∉ front := fun member => inside (List.mem_cons_of_mem c member)
    rw [List.cons_append, cutLines, if_neg other, ih later]
    rfl

theorem cutLines_last {front : List Char} (inside : '\n' ∉ front) (nonempty : front ≠ []) :
    cutLines front = [front] := by
  induction front with
  | nil => exact absurd rfl nonempty
  | cons c front ih =>
    have other : c ≠ '\n' := fun same => inside (same ▸ List.mem_cons_self ..)
    have later : '\n' ∉ front := fun member => inside (List.mem_cons_of_mem c member)
    rw [cutLines, if_neg other]
    cases front with
    | nil => rfl
    | cons d rest => rw [ih later (List.cons_ne_nil d rest)]

/-- Text is empty, or a line and some more text, or a last line without an end. -/
theorem lines_cases (motive : List Char → Prop) (empty : motive [])
    (line : ∀ front rest, '\n' ∉ front → motive rest → motive (front ++ '\n' :: rest))
    (last : ∀ front, '\n' ∉ front → front ≠ [] → motive front) (text : List Char) :
    motive text := by
  induction size : text.length using Nat.strongRecOn generalizing text with
  | ind length ih =>
    by_cases ended : '\n' ∈ text
    · obtain ⟨front, rest, rfl, inside⟩ := List.eq_append_cons_of_mem ended
      refine line front rest inside (ih rest.length ?_ rest rfl)
      rw [← size, List.length_append, List.length_cons]
      omega
    · by_cases blank : text = []
      · exact blank ▸ empty
      · exact last text ended blank

theorem flatten_cutLines (text : List Char) : (cutLines text).flatten = text := by
  induction text using lines_cases with
  | empty => rfl
  | line front rest inside ih => rw [cutLines_line inside, List.flatten_cons, ih]; simp
  | last front inside nonempty => rw [cutLines_last inside nonempty]; simp

theorem cutLines_append {text : List Char} (ended : text.getLast? = some '\n')
    (more : List Char) : cutLines (text ++ more) = cutLines text ++ cutLines more := by
  induction text using lines_cases with
  | empty => cases ended
  | line front rest inside ih =>
    rw [List.append_assoc, List.cons_append, cutLines_line inside, cutLines_line inside]
    by_cases blank : rest = []
    · rw [blank]; rfl
    · have later : rest.getLast? = some '\n' := by
        rw [← ended, List.getLast?_append_cons, List.getLast?_cons_of_ne_nil blank]
      rw [ih later, List.cons_append]
  | last front inside nonempty =>
    exact absurd (List.mem_of_getLast? ended) inside

/-- A line is all of its own lines. -/
theorem cutLines_of_mem {text line : List Char} (member : line ∈ cutLines text) :
    cutLines line = [line] := by
  induction text using lines_cases with
  | empty => cases member
  | line front rest inside ih =>
    rw [cutLines_line inside] at member
    rcases List.mem_cons.mp member with rfl | later
    · exact cutLines_line inside []
    · exact ih later
  | last front inside nonempty =>
    rw [cutLines_last inside nonempty] at member
    rw [List.mem_singleton.mp member, cutLines_last inside nonempty]

theorem cutLines_ne_nil {text : List Char} (nonempty : text ≠ []) : cutLines text ≠ [] := by
  intro blank
  rw [← flatten_cutLines text, blank] at nonempty
  exact nonempty rfl

/-- Only the last line of a text can be without its end. -/
theorem ended_of_mem_dropLast_cutLines (text : List Char) :
    ∀ line ∈ (cutLines text).dropLast, line.getLast? = some '\n' := by
  induction text using lines_cases with
  | empty => exact List.forall_mem_nil _
  | line front rest inside ih =>
    rw [cutLines_line inside]
    by_cases blank : rest = []
    · rw [blank]; exact List.forall_mem_nil _
    · rw [List.dropLast_cons_of_ne_nil (cutLines_ne_nil blank), List.forall_mem_cons]
      exact ⟨List.getLast?_concat, ih⟩
  | last front inside nonempty =>
    rw [cutLines_last inside nonempty]
    exact List.forall_mem_nil _

/-- The lines of a text. -/
def textLines (text : String) : List String := (cutLines text.toList).map String.ofList

/-- A text that ends its last line. -/
def Ended (text : String) : Prop := text.toList.getLast? = some '\n'

/-- A text that is one line. -/
def IsLine (text : String) : Prop := textLines text = [text]

/-- Texts of which all but the last end their last line. -/
def Joined (nodes : List String) : Prop := ∀ node ∈ nodes.dropLast, Ended node

theorem ended_endLine (text : String) : Ended (endLine text) := by
  unfold endLine
  split
  · next ended => exact LawfulBEq.eq_of_beq ended
  · simp [Ended, String.toList_append]

theorem isLine_of_mem_textLines {text line : String} (member : line ∈ textLines text) :
    IsLine line := by
  obtain ⟨chars, cut, rfl⟩ := List.mem_map.mp member
  rw [IsLine, textLines, String.toList_ofList, cutLines_of_mem cut]
  rfl

theorem flatMap_textLines {nodes : List String} (lines : ∀ node ∈ nodes, IsLine node) :
    nodes.flatMap textLines = nodes := by
  induction nodes with
  | nil => rfl
  | cons node rest ih =>
    rw [List.forall_mem_cons] at lines
    rw [List.flatMap_cons, lines.1, ih lines.2]
    rfl

theorem joined_textLines (text : String) : Joined (textLines text) := by
  intro line member
  rw [textLines, ← List.map_dropLast] at member
  obtain ⟨chars, cut, rfl⟩ := List.mem_map.mp member
  rw [Ended, String.toList_ofList]
  exact ended_of_mem_dropLast_cutLines text.toList chars cut

theorem textLines_length_pos {text : String} (ended : Ended text) :
    0 < (textLines text).length := by
  rw [textLines, List.length_map]
  refine List.length_pos_iff.mpr (cutLines_ne_nil fun blank => ?_)
  rw [Ended, blank] at ended
  cases ended

theorem textLines_append {text : String} (ended : Ended text) (more : String) :
    textLines (text ++ more) = textLines text ++ textLines more := by
  rw [textLines, String.toList_append, cutLines_append ended, List.map_append]
  rfl

theorem render_textLines (text : String) : render (textLines text) = text := by
  apply String.toList_inj.mp
  rw [render, String.toList_join, textLines, List.flatMap_map]
  simp only [String.toList_ofList]
  rw [List.flatMap_id', flatten_cutLines]

theorem joined_append {front back : List String} (nonempty : back ≠ []) :
    Joined (front ++ back) ↔ (∀ node ∈ front, Ended node) ∧ Joined back := by
  rw [Joined, List.dropLast_append_of_ne_nil nonempty, List.forall_mem_append]
  rfl

theorem joined_append_of_ended {front back : List String} (ended : ∀ node ∈ front, Ended node)
    (joined : Joined back) : Joined (front ++ back) := by
  by_cases blank : back = []
  · rw [blank, List.append_nil]
    exact fun node member => ended node (List.dropLast_subset front member)
  · exact (joined_append blank).mpr ⟨ended, joined⟩

theorem joined_concat {front : List String} {last : String} :
    Joined (front ++ [last]) ↔ ∀ node ∈ front, Ended node := by
  rw [Joined, List.dropLast_concat]

/-- The lines of texts put together are the lines of all of them, where none is continued by the
next. -/
theorem textLines_render {nodes : List String} (joined : Joined nodes) :
    textLines (render nodes) = nodes.flatMap textLines := by
  induction nodes with
  | nil => rfl
  | cons node rest ih =>
    by_cases blank : rest = []
    · rw [blank, render, String.join_cons, String.join_nil, String.append_empty,
        List.flatMap_singleton]
    · rw [← List.singleton_append, joined_append blank, List.forall_mem_singleton] at joined
      rw [render, String.join_cons, textLines_append joined.1, List.flatMap_cons]
      exact congrArg _ (ih joined.2)

namespace Stream

theorem byteLines_line {front : List UInt8} (inside : lineEnd ∉ front) (rest : List UInt8) :
    byteLines (front ++ lineEnd :: rest) = (front ++ [lineEnd]) :: byteLines rest := by
  have clean : ∀ byte ∈ front, (byte != lineEnd) = true := fun byte member => by
    have other : byte ≠ lineEnd := fun same => inside (same ▸ member)
    simp [other]
  have stops : (front ++ lineEnd :: rest).dropWhile (· != lineEnd) = lineEnd :: rest := by
    rw [List.dropWhile_append_of_pos clean, List.dropWhile_cons_of_neg (by simp)]
  have runs : (front ++ lineEnd :: rest).takeWhile (· != lineEnd) = front := by
    rw [List.takeWhile_append_of_pos clean, List.takeWhile_cons_of_neg (by simp), List.append_nil]
  rw [byteLines, if_neg (by simp)]
  split
  · next ends => rw [stops] at ends; cases ends
  · next stop after found =>
    rw [stops] at found
    cases found
    rw [runs]

theorem byteLines_last {front : List UInt8} (inside : lineEnd ∉ front) (nonempty : front ≠ []) :
    byteLines front = [front] := by
  have ends : front.dropWhile (· != lineEnd) = [] := by
    rw [List.dropWhile_eq_nil_iff]
    intro byte member
    have other : byte ≠ lineEnd := fun same => inside (same ▸ member)
    simp [other]
  rw [byteLines, if_neg nonempty]
  split
  · rfl
  · next found => rw [ends] at found; cases found

/-- The bytes of a text. -/
def encode (text : List Char) : List UInt8 := text.flatMap String.utf8EncodeChar

/-- A character is encoded by its own number or by bytes beyond those of ASCII. -/
theorem toNat_of_mem_utf8EncodeChar (c : Char) :
    ∀ byte ∈ String.utf8EncodeChar c, byte.toNat = c.val.toNat ∨ 128 ≤ byte.toNat := by
  unfold String.utf8EncodeChar
  dsimp only
  repeat' split
  all_goals
    simp only [List.forall_mem_cons, List.not_mem_nil, UInt8.toNat_ofNat', false_implies,
      implies_true, and_true]
    omega

theorem lineEnd_notMem_utf8EncodeChar {c : Char} (other : c ≠ '\n') :
    lineEnd ∉ String.utf8EncodeChar c := by
  intro member
  rcases toNat_of_mem_utf8EncodeChar c lineEnd member with same | beyond
  · exact other (Char.ext (UInt32.toNat_inj.mp same.symm))
  · exact absurd beyond (by decide)

theorem lineEnd_notMem_encode {text : List Char} (inside : '\n' ∉ text) :
    lineEnd ∉ encode text := by
  intro member
  obtain ⟨c, here, byte⟩ := List.mem_flatMap.mp member
  exact lineEnd_notMem_utf8EncodeChar (fun same => inside (same ▸ here)) byte

theorem byteLines_encode (text : List Char) :
    byteLines (encode text) = (cutLines text).map encode := by
  induction text using lines_cases with
  | empty => rw [encode, List.flatMap_nil, byteLines, if_pos rfl]; rfl
  | line front rest inside ih =>
    have split : encode (front ++ '\n' :: rest) = encode front ++ lineEnd :: encode rest := by
      simp [encode]
      rfl
    have ended : encode (front ++ ['\n']) = encode front ++ [lineEnd] := by
      simp [encode]
      rfl
    rw [split, byteLines_line (lineEnd_notMem_encode inside), ih, cutLines_line inside,
      List.map_cons, ended]
  | last front inside nonempty =>
    have some_byte : encode front ≠ [] := by
      cases front with
      | nil => exact absurd rfl nonempty
      | cons c rest => simp [encode]
    rw [byteLines_last (lineEnd_notMem_encode inside) some_byte, cutLines_last inside nonempty]
    rfl

theorem decode_encode (text : List Char) : decode (encode text) = .ok (String.ofList text) := by
  have bytes : (⟨(encode text).toArray⟩ : ByteArray) = text.utf8Encode := by
    apply ByteArray.ext
    rw [List.utf8Encode, List.data_toByteArray]
    rfl
  rw [decode, bytes, String.fromUTF8?, dif_pos ByteArray.isValidUTF8_utf8Encode]
  rfl

theorem readLines_encode (lines : List (List Char)) :
    readLines none (lines.map encode) = .ok (lines.map String.ofList) := by
  induction lines with
  | nil => rfl
  | cons line rest ih =>
    rw [List.map_cons, readLines, decode_encode, ih]
    split <;> rfl

theorem bytes_ofText (text : String) : (ofText text).bytes = encode text.toList := by
  have bytes : text.toUTF8 = (encode text.toList).toByteArray := by
    rw [String.toUTF8_eq_toByteArray, ← String.utf8Encode_toList]
    rfl
  rw [ofText, bytes, List.toList_data_toByteArray]

theorem decode_ofText (text : String) : decode (ofText text).bytes = .ok text := by
  rw [bytes_ofText, decode_encode, String.ofList_toList]

/-- A text is read as its lines. -/
theorem lines_ofText (text : String) : (ofText text).lines = .ok (textLines text) := by
  rw [lines, bytes_ofText, byteLines_encode]
  exact readLines_encode (cutLines text.toList)

end Stream

end Transclude
