import Mathlib.Data.List.Basic
import Transclude.Glob.Basic
import Transclude.Proofs.TextLines

/-!
What globs match. The parts of a glob take the bytes of a path one after the other, in one of
several ways. A glob that begins with the name of a directory and a slash, or with the name and
a part that stands for a slash and directories, matches what the rest of it matches below the
directory.
-/

namespace Transclude.Glob

open Transclude.Stream (encode)

/-- Parts can take all of some bytes. -/
def Takes (parts : List Part) (bytes : List UInt8) : Prop := [] ∈ rests parts [bytes]

variable {parts others : List Part} {bytes rest : List UInt8}

theorem mem_rests {held : List (List UInt8)} :
    rest ∈ rests parts held ↔ ∃ bytes ∈ held, rest ∈ rests parts [bytes] := by
  induction parts generalizing held with
  | nil => simp [rests]
  | cons part others ih =>
    rw [rests, ih]
    simp only [rests, List.mem_eraseDups, List.mem_flatten, List.mem_map]
    constructor
    · rintro ⟨middle, ⟨_, ⟨bytes, member, rfl⟩, left⟩, taken⟩
      exact ⟨bytes, member, ih.mpr ⟨middle, by simpa using left, taken⟩⟩
    · rintro ⟨bytes, member, taken⟩
      obtain ⟨middle, left, taken⟩ := ih.mp taken
      exact ⟨middle, ⟨part.rests bytes, ⟨bytes, member, rfl⟩, by simpa using left⟩, taken⟩

theorem takes_nil : Takes [] bytes ↔ bytes = [] := by
  rw [Takes, rests, List.mem_singleton, eq_comm]

theorem takes_cons {part : Part} :
    Takes (part :: others) bytes ↔ ∃ rest ∈ part.rests bytes, Takes others rest := by
  rw [Takes, rests, mem_rests]
  simp [Takes]

theorem takes_literal {c : Char} :
    Takes (.literal c :: others) bytes ↔
      ∃ rest, bytes = String.utf8EncodeChar c ++ rest ∧ Takes others rest := by
  rw [takes_cons, Part.rests]
  constructor
  · rintro ⟨rest, left, taken⟩
    split at left
    · next begins =>
      obtain ⟨after, rfl⟩ := List.isPrefixOf_iff_prefix.mp begins
      rw [List.drop_left, List.mem_singleton] at left
      exact ⟨after, rfl, left ▸ taken⟩
    · cases left
  · rintro ⟨rest, rfl, taken⟩
    refine ⟨rest, ?_, taken⟩
    rw [if_pos (List.isPrefixOf_iff_prefix.mpr (List.prefix_append _ _)), List.drop_left]
    exact List.mem_singleton_self _

/-- Literal characters take the bytes of their text. -/
theorem takes_literals {text : List Char} :
    Takes (text.map .literal ++ others) bytes ↔
      ∃ rest, bytes = encode text ++ rest ∧ Takes others rest := by
  induction text generalizing bytes with
  | nil => simp [encode]
  | cons c text ih =>
    rw [List.map_cons, List.cons_append, takes_literal]
    simp only [ih]
    constructor
    · rintro ⟨_, rfl, rest, rfl, taken⟩
      exact ⟨rest, by simp [encode], taken⟩
    · rintro ⟨rest, rfl, taken⟩
      exact ⟨encode text ++ rest, by simp [encode], rest, rfl, taken⟩

theorem takes_slash :
    Takes (.literal '/' :: others) bytes ↔ ∃ rest, bytes = slash :: rest ∧ Takes others rest :=
  takes_literal

/-- Two stars behind a slash take what they take at the start of a path, behind that slash. -/
theorem takes_inner :
    Takes (.inner :: others) bytes ↔
      ∃ rest, bytes = slash :: rest ∧ Takes (.leading :: others) rest := by
  simp only [takes_cons, Part.rests]
  cases bytes with
  | nil => simp
  | cons byte rest =>
    by_cases same : byte = slash
    · simp [same]
    · simp [same]

theorem nil_mem_suffixes (bytes : List UInt8) : [] ∈ suffixes bytes := by
  induction bytes with
  | nil => exact List.mem_singleton_self _
  | cons byte rest ih => exact List.mem_cons_of_mem _ ih

theorem takes_trailing : Takes [.trailing] bytes ↔ ∃ rest, bytes = slash :: rest := by
  simp only [takes_cons, takes_nil, Part.rests, exists_eq_right]
  cases bytes with
  | nil => simp
  | cons byte rest =>
    by_cases same : byte = slash
    · simp [same, nil_mem_suffixes]
    · simp [same]

theorem isMatch_iff {path : String} (parts : List Part) :
    isMatch ⟨parts⟩ path = true ↔ parts = [.leading] ∨ Takes parts (encode path.toList) := by
  have bytes : path.toUTF8.data.toList = encode path.toList := Stream.bytes_ofText path
  unfold isMatch
  split
  · next found =>
    have found : parts = [.leading] := found
    simp [found]
  · next other =>
    have other : parts ≠ [.leading] := other
    rw [bytes, List.contains_iff_mem, or_iff_right other]
    rfl

/-! Texts in front of others. -/

theorem eq_of_encode_cons {c d : Char} {text : List Char} {more : List UInt8}
    (same : String.utf8EncodeChar c ++ more = encode (d :: text)) : c = d := by
  have first : ((String.utf8EncodeChar c ++ more).toByteArray).utf8DecodeChar? 0 = some c := by
    rw [List.toByteArray_append]
    exact ByteArray.utf8DecodeChar?_utf8EncodeChar_append
  rw [same, encode, List.flatMap_cons, List.toByteArray_append,
    ByteArray.utf8DecodeChar?_utf8EncodeChar_append] at first
  exact (Option.some.inj first).symm

/-- The encoding of a text begins with that of another one only if the text does. -/
theorem exists_of_encode_append {front text : List Char} {more : List UInt8}
    (same : encode text = encode front ++ more) :
    ∃ after, text = front ++ after ∧ more = encode after := by
  induction front generalizing text with
  | nil => exact ⟨text, rfl, same.symm⟩
  | cons c front ih =>
    have split : encode text = String.utf8EncodeChar c ++ (encode front ++ more) := by
      rw [same]
      simp [encode]
    cases text with
    | nil => simp [encode] at split
    | cons d text =>
      obtain rfl := eq_of_encode_cons split.symm
      rw [encode, List.flatMap_cons] at split
      obtain ⟨after, rfl, rfl⟩ := ih (List.append_cancel_left split)
      exact ⟨after, rfl, rfl⟩

/-- Where parts take a slash first, they take the paths in a directory behind its name. -/
theorem takes_base {base : List Char} {Behind : List UInt8 → Prop}
    (first : ∀ bytes, Takes parts bytes ↔ ∃ rest, bytes = slash :: rest ∧ Behind rest)
    {path : String} :
    Takes (base.map .literal ++ parts) (encode path.toList) ↔
      ∃ seen : String, path.toList = base ++ '/' :: seen.toList ∧ Behind (encode seen.toList) := by
  have slash_bytes : ∀ more, encode base ++ slash :: more = encode (base ++ ['/']) ++ more := by
    intro more
    simp [encode]
    rfl
  rw [takes_literals]
  simp only [first]
  constructor
  · rintro ⟨_, same, rest, rfl, taken⟩
    rw [slash_bytes] at same
    obtain ⟨after, split, rfl⟩ := exists_of_encode_append same
    refine ⟨String.ofList after, by rw [split, String.toList_ofList]; simp, ?_⟩
    rwa [String.toList_ofList]
  · rintro ⟨seen, split, taken⟩
    refine ⟨_, ?_, _, rfl, taken⟩
    rw [slash_bytes, split]
    simp [encode]

/-- The parts of a glob of which those behind the name of a directory are given. Two stars at the
start of these are a part of their own in front of others, and together with the slash before them
they are another one. -/
inductive Below (base : List Char) : List Part → List Part → Prop
  | plain (parts : List Part) (other : parts.head? ≠ some .leading) :
    Below base parts (base.map .literal ++ .literal '/' :: parts)
  | inner (parts : List Part) (more : parts ≠ []) :
    Below base (.leading :: parts) (base.map .literal ++ .inner :: parts)
  | trailing : Below base [.leading] (base.map .literal ++ [.trailing])

/-- A glob that begins with the name of a directory matches the paths in the directory that its rest
matches, as they are seen from there. -/
theorem Below.isMatch_iff {base : List Char} {parts whole : List Part}
    (below : Below base parts whole) {path : String} :
    isMatch ⟨whole⟩ path = true ↔
      ∃ seen : String, path.toList = base ++ '/' :: seen.toList ∧ isMatch ⟨parts⟩ seen = true := by
  have longer : ∀ part others, part ≠ Part.leading →
      base.map Part.literal ++ part :: others ≠ [.leading] := by
    intro part others other
    cases base with
    | nil => simp [other]
    | cons c base => simp
  cases below with
  | plain _ other =>
    have alone : parts ≠ [.leading] := by
      rintro rfl
      exact other rfl
    rw [Glob.isMatch_iff, or_iff_right (longer _ _ (by simp)), takes_base fun _ => takes_slash]
    simp only [Glob.isMatch_iff, or_iff_right alone]
  | inner others more =>
    have alone : Part.leading :: others ≠ [.leading] := by simpa using more
    rw [Glob.isMatch_iff, or_iff_right (longer _ _ (by simp)), takes_base fun _ => takes_inner]
    simp only [Glob.isMatch_iff, or_iff_right alone]
  | trailing =>
    have all : ∀ bytes, Takes [.trailing] bytes ↔ ∃ rest, bytes = slash :: rest ∧ True := by
      simp only [takes_trailing, and_true, implies_true]
    rw [Glob.isMatch_iff, or_iff_right (longer _ _ (by simp)), takes_base all]
    simp only [Glob.isMatch_iff, true_or]

end Transclude.Glob
