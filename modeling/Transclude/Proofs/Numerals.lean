import Transclude.Text.Digits

/-!
Numbers in decimal digits. Any run of digits is read as the number that it writes, and so are the
digits with which a number is written.
-/

namespace Transclude.Digits

theorem digit?_of_isDigit {c : Char} (digit : c.isDigit = true) :
    digit? 10 c = some (c.toNat - '0'.toNat) := by
  have ⟨low, high⟩ := Char.isDigit_iff_toNat.mp digit
  have here : '0' ≤ c ∧ c ≤ '9' :=
    ⟨UInt32.le_iff_toNat_le.mpr low, UInt32.le_iff_toNat_le.mpr high⟩
  rw [digit?, value?, if_pos here]
  refine Option.filter_eq_some_iff.mpr ⟨rfl, decide_eq_true ?_⟩
  simp only [Char.reduceToNat] at low high ⊢
  omega

theorem continueNumber_of_digits {digits : List Char} (all : ∀ c ∈ digits, c.isDigit = true)
    (n : Nat) : continueNumber 10 n digits = some (Nat.ofDigitChars 10 digits n) := by
  induction digits generalizing n with
  | nil => rfl
  | cons c rest ih =>
    rw [List.forall_mem_cons] at all
    rw [continueNumber, digit?_of_isDigit all.1, Nat.ofDigitChars_cons, Nat.mul_comm]
    exact ih all.2 _

theorem number?_of_digits {digits : List Char} (nonempty : digits ≠ [])
    (all : ∀ c ∈ digits, c.isDigit = true) :
    number? 10 digits = some (Nat.ofDigitChars 10 digits 0) := by
  obtain ⟨c, rest, rfl⟩ := List.exists_cons_of_ne_nil nonempty
  exact continueNumber_of_digits all 0

theorem number?_toDigits (n : Nat) : number? 10 (Nat.toDigits 10 n) = some n := by
  have all : ∀ c ∈ Nat.toDigits 10 n, c.isDigit = true :=
    fun _ => Nat.isDigit_of_mem_toDigits (by decide) (by decide)
  rw [number?_of_digits Nat.toDigits_ne_nil all, Nat.ofDigitChars_ten_toDigits]

/-- The digits of a number begin with a zero only if there is no other. -/
theorem toDigits_eq_zero_cons {n : Nat} {rest : List Char}
    (zero : Nat.toDigits 10 n = '0' :: rest) : rest = [] := by
  induction n using Nat.strongRecOn generalizing rest with
  | ind n ih =>
    rcases Nat.lt_or_ge n 10 with small | large
    · rw [Nat.toDigits_of_lt_base small] at zero
      exact (List.cons.inj zero).2.symm
    · rw [Nat.toDigits_of_base_le (by decide) large] at zero
      cases front : Nat.toDigits 10 (n / 10) with
      | nil => exact absurd front Nat.toDigits_ne_nil
      | cons c more =>
        rw [front] at zero
        cases (List.cons.inj zero).1
        -- then the quotient is zero, which it is not
        have none := ih (n / 10) (by omega) front
        rw [none] at front
        have value := number?_toDigits (n / 10)
        rw [front, show number? 10 ['0'] = some 0 from rfl] at value
        have := Option.some.inj value
        omega

end Transclude.Digits
