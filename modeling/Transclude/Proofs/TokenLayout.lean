import Mathlib.Data.List.Chain
import Transclude.Proofs.ParameterLanguage

/-!
Parameters laid out by hand: tokens one behind the other, with blanks around them where someone put
some. A token could take up characters of the next one. Where it cannot, the tokens that are read
are those that were laid out.
-/

namespace Transclude.Parameter

namespace Token

/-- A text of tokens in order, with any blanks before and behind them. -/
inductive Spells : List Char → List Token → Prop
  | nil {blanks : List Char} : (∀ c ∈ blanks, isBlankChar c = true) → Spells blanks []
  | cons {blanks input : List Char} {token : Token} {tokens : List Token} :
    (∀ c ∈ blanks, isBlankChar c = true) → Spells input tokens →
      Spells (blanks ++ (token.text ++ input)) (token :: tokens)

/-- The second of two tokens does not continue the first. -/
def Apart (token next : Token) : Prop := ∀ c ∈ next.text.head?, token.continues c = false

/-- A token of one character that stands for nothing else. -/
def isMark : Token → Bool
  | braceOpen | braceClose | colon | comma => true
  | _ => false

/-- Tokens with the blanks that are put in front of each. -/
theorem spells_placed {placed : List (List Char × Token)} {last : List Char}
    (between : ∀ place ∈ placed, ∀ c ∈ place.1, isBlankChar c = true)
    (behind : ∀ c ∈ last, isBlankChar c = true) :
    Spells (placed.flatMap (fun place => place.1 ++ place.2.text) ++ last)
      (placed.map Prod.snd) := by
  induction placed with
  | nil => exact .nil behind
  | cons place placed ih =>
    obtain ⟨here, others⟩ := List.forall_mem_cons.mp between
    rw [List.flatMap_cons, List.append_assoc, List.append_assoc]
    exact .cons here (ih others)

theorem exists_spells (tokens : List Token) : ∃ input, Spells input tokens := by
  have spells := @spells_placed (tokens.map fun token => ([], token)) [] (by simp) nofun
  have same : (tokens.map fun token => (([] : List Char), token)).map Prod.snd = tokens := by simp
  rw [same] at spells
  exact ⟨_, spells⟩

theorem apart_of_isMark {token : Token} (mark : token.isMark = true) (next : Token) :
    Apart token next := by
  cases token with
  | braceOpen | braceClose | colon | comma => exact fun _ _ => rfl
  | blank _ | doubleQuoted _ | singleQuoted _ | integer _ | word _ => cases mark

theorem apart_mark {next : Token} (mark : next.isMark = true) (token : Token) :
    Apart token next := by
  intro c first
  cases next with
  | braceOpen | braceClose | colon | comma =>
    cases first
    cases token <;> rfl
  | blank _ | doubleQuoted _ | singleQuoted _ | integer _ | word _ => cases mark

/-- Blanks end every other token. -/
theorem continues_blank {token : Token} (solid : token.isBlank = false) {c : Char}
    (blank : isBlankChar c = true) : token.continues c = false := by
  simp only [isBlankChar, Bool.or_eq_true, beq_iff_eq] at blank
  cases token with
  | blank _ => cases solid
  | braceOpen | braceClose | colon | comma | doubleQuoted _ | singleQuoted _ => rfl
  | integer _ | word _ => rcases blank with ((rfl | rfl) | rfl) | rfl <;> rfl

theorem takeWhile_continues {token : Token} {rest : List Char}
    (ends : ∀ c ∈ rest.head?, token.continues c = false) :
    rest.takeWhile token.continues = [] := by
  cases rest with
  | nil => rfl
  | cons c rest => exact List.takeWhile_cons_of_neg (by simp [ends c rfl])

/-- A token is read at the start of a text if what follows does not continue it. -/
theorem next?_of_ends {token : Token} (written : token.IsWritten) {rest : List Char}
    (ends : ∀ c ∈ rest.head?, token.continues c = false) :
    next? (token.text ++ rest) = some (token, rest) := by
  have found := written.next?_append rest
  rw [takeWhile_continues ends, extend_nil] at found
  rw [found, ← List.append_cancel_left (next?_split found)]

theorem significant?_of_next? {input after : List Char} {token : Token}
    (found : next? input = some (token, after)) (solid : token.isBlank = false) :
    significant? input = (significant? after).map (token :: ·) := by
  rw [significant?, scan?_of_next? found, significant?, Option.map_map, Option.map_map]
  exact congrArg (Option.map · _) (funext fun tokens => by simp [solid])

theorem significant?_of_next?_blank {input after : List Char} {token : Token}
    (found : next? input = some (token, after)) (blank : token.isBlank = true) :
    significant? input = significant? after := by
  rw [significant?, scan?_of_next? found, significant?, Option.map_map]
  exact congrArg (Option.map · _) (funext fun tokens => by simp [blank])

theorem significant?_dropBlanks (input : List Char) :
    significant? (input.dropWhile isBlankChar) = significant? input := by
  cases input with
  | nil => rfl
  | cons c rest =>
    cases blank : isBlankChar c with
    | false => rw [List.dropWhile_cons_of_neg (by simp [blank])]
    | true =>
      rw [List.dropWhile_cons_of_pos blank,
        significant?_of_next?_blank (next?_blank blank rest) rfl]

theorem significant?_blanks_append {blanks : List Char} (all : ∀ c ∈ blanks, isBlankChar c = true)
    (rest : List Char) : significant? (blanks ++ rest) = significant? rest := by
  rw [← significant?_dropBlanks, List.dropWhile_append_of_pos all, significant?_dropBlanks]

theorem IsWritten.text_ne_nil {token : Token} (written : token.IsWritten) : token.text ≠ [] := by
  intro empty
  have found := written.next?_append []
  rw [empty] at found
  cases found

/-- What follows a token in a text is a blank or the next token, and neither continues it. -/
theorem Spells.ends {input : List Char} {token : Token} {tokens : List Token}
    (spells : Spells input tokens) (written : ∀ next ∈ tokens, next.IsWritten)
    (solid : token.isBlank = false) (apart : ∀ next ∈ tokens.head?, Apart token next) :
    ∀ c ∈ input.head?, token.continues c = false := by
  intro c first
  have of_blank : ∀ blanks : List Char, (∀ d ∈ blanks, isBlankChar d = true) →
      c ∈ blanks.head? → token.continues c = false := fun blanks all here =>
    continues_blank solid (all c (List.mem_of_mem_head? here))
  cases spells with
  | nil all => exact of_blank _ all first
  | @cons blanks rest next tokens all later =>
    cases blanks with
    | cons d blanks => exact of_blank _ all first
    | nil =>
      obtain ⟨d, more, same⟩ :=
        List.exists_cons_of_ne_nil (written next List.mem_cons_self).text_ne_nil
      rw [List.nil_append, same] at first
      refine apart next rfl c ?_
      rw [same]
      exact first

/-- The tokens of a text are those that were laid out in it. -/
theorem significant?_of_spells {input : List Char} {tokens : List Token}
    (spells : Spells input tokens) (written : ∀ token ∈ tokens, token.IsWritten)
    (solid : ∀ token ∈ tokens, token.isBlank = false) (apart : tokens.IsChain Apart) :
    significant? input = some tokens := by
  induction spells with
  | @nil blanks all =>
    rw [← List.append_nil blanks, significant?_blanks_append all, significant?, scan?, if_pos rfl]
    rfl
  | @cons blanks input token tokens all spells ih =>
    obtain ⟨first, others⟩ := List.forall_mem_cons.mp written
    obtain ⟨here, later⟩ := List.forall_mem_cons.mp solid
    obtain ⟨edge, chain⟩ := List.isChain_cons.mp apart
    have ends := spells.ends others here edge
    calc significant? (blanks ++ (token.text ++ input))
        = significant? (token.text ++ input) := significant?_blanks_append all _
      _ = (significant? input).map (token :: ·) :=
        significant?_of_next? (next?_of_ends first ends) here
      _ = some (token :: tokens) := by rw [ih others later chain]; rfl

theorem scan?_text {token : Token} (written : token.IsWritten) :
    scan? token.text = some [token] := by
  have found : next? (token.text ++ []) = some (token, []) := next?_of_ends written nofun
  rw [List.append_nil] at found
  rw [scan?_of_next? found, scan?, if_pos rfl]
  rfl

end Token

namespace Expression

open Token

/-- A text in which tokens were laid out is read as the expression that they write. -/
theorem evaluate?_of_spells {text : String} {tokens : List Token}
    (spells : Spells text.toList tokens) (written : ∀ token ∈ tokens, token.IsWritten)
    (solid : ∀ token ∈ tokens, token.isBlank = false) (apart : tokens.IsChain Apart) :
    evaluate? text = ofTokens? tokens := by
  rw [evaluate?, significant?_of_spells spells written solid apart]
  rfl

/-- The text of one token is read as this token. -/
theorem evaluate?_text {token : Token} (written : token.IsWritten) (solid : token.isBlank = false) :
    evaluate? (String.ofList token.text) = ofTokens? [token] := by
  rw [evaluate?, String.toList_ofList, significant?, scan?_text written, Option.map_some,
    List.filter_cons_of_pos (by rw [solid]; rfl)]
  rfl

end Expression

end Transclude.Parameter
