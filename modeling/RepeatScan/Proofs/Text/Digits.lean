import Mathlib.Algebra.Group.Nat.Defs
import RepeatScan.Fingerprint
import RepeatScan.Text.Decimal

set_option autoImplicit false

/-! Numbers read back from their digits: decimal digits without leading zeros, hexadecimal digits at a
given number of places, and the digits of a fingerprint. -/

namespace RepeatScan

namespace Text

/-! ### Decimal digits -/

theorem isDigit_of_mem_decimal {number : Nat} {digit : Char} (member : digit ∈ decimal number) :
    digit.isDigit = true :=
  Nat.isDigit_of_mem_toDigits (by decide) (by decide) member

theorem decimal_ne_nil (number : Nat) : decimal number ≠ [] :=
  Nat.toDigits_ne_nil

theorem digitsFrom_decimal (number : Nat) : digitsFrom 0 (decimal number) = number := by
  have read := Nat.ofDigitChars_ten_toDigits (n := number)
  rw [Nat.ofDigitChars_eq_foldl] at read
  simpa only [digitsFrom, decimal, Nat.mul_comm] using read

theorem digits?_decimal (number : Nat) : digits? (decimal number) = some number := by
  have inhabited := decimal_ne_nil number
  have digits : (decimal number).all Char.isDigit = true :=
    List.all_eq_true.mpr fun _ member => isDigit_of_mem_decimal member
  simp [digits?, inhabited, digits, digitsFrom_decimal]

/-- Only zero is written with a zero in front. -/
theorem head?_decimal {number : Nat} (positive : 0 < number) :
    (decimal number).head? ≠ some '0' := by
  induction number using Nat.strongRecOn with
  | ind number ih =>
      unfold decimal at ih ⊢
      by_cases small : number < 10
      · have first : ∀ digit < 10, 0 < digit → [digit.digitChar].head? ≠ some '0' := by decide
        rw [Nat.toDigits_of_lt_base small]
        exact first number small positive
      · have rest := ih (number / 10) (by omega) (by omega)
        obtain ⟨first, later, split⟩ :=
          List.exists_cons_of_ne_nil (decimal_ne_nil (number / 10))
        unfold decimal at split
        rw [Nat.toDigits_of_base_le (by decide) (by omega), split]
        rw [split] at rest
        exact rest

theorem exists_head_decimal (number : Nat) :
    ∃ digit later, decimal number = digit :: later ∧ digit.isDigit = true := by
  obtain ⟨digit, later, split⟩ := List.exists_cons_of_ne_nil (decimal_ne_nil number)
  have listed : digit ∈ decimal number := by simp [split]
  exact ⟨digit, later, split, isDigit_of_mem_decimal listed⟩

/-! ### Digits of other bases -/

theorem hexValue?_of_isDigit {digit : Char} (isDigit : digit.isDigit = true) :
    (hexValue? digit).filter (· < 10) = some (digit.toNat - '0'.toNat) := by
  have range : '0' ≤ digit ∧ digit ≤ '9' := by
    simpa [Char.isDigit, Char.le_def] using isDigit
  have code : digit.toNat ≤ '9'.toNat := range.2
  have small : digit.toNat - '0'.toNat < 10 := by
    simp only [Char.reduceToNat] at code ⊢
    omega
  simp [hexValue?, range, Option.filter, -Char.reduceToNat, small]

theorem mapM_hexValue?_of_digits {digits : Text} (all : ∀ digit ∈ digits, digit.isDigit = true) :
    (digits.mapM fun digit => (hexValue? digit).filter (· < 10)) =
      some (digits.map fun digit => digit.toNat - '0'.toNat) := by
  induction digits with
  | nil => rfl
  | cons digit later ih =>
      have rest := ih fun other listed => all other (List.mem_cons_of_mem digit listed)
      simp [hexValue?_of_isDigit (all digit List.mem_cons_self), rest]

/-- The digits of a decimal number are digits of the base ten. -/
theorem inBase?_decimal (number : Nat) : inBase? 10 (decimal number) = some number := by
  have inhabited := decimal_ne_nil number
  have value : ofDigits 10 ((decimal number).map fun digit => digit.toNat - '0'.toNat) = number := by
    rw [ofDigits, List.foldl_map]
    simpa [digitsFrom, Nat.mul_comm] using digitsFrom_decimal number
  simp only [inBase?, mapM_hexValue?_of_digits fun _ => isDigit_of_mem_decimal]
  simpa [inhabited] using value

theorem ofDigits_concat (base : Nat) (values : List Nat) (value : Nat) :
    ofDigits base (values ++ [value]) = ofDigits base values * base + value := by
  simp [ofDigits]

/-- Digits at some places are read as the number, as far as it fits into the places. -/
theorem mapM_hexDigits (places number : Nat) :
    ∃ values, (hexDigits places number).mapM hexValue? = some values ∧ values.length = places ∧
      ofDigits 16 values = number % 16 ^ places := by
  induction places generalizing number with
  | zero => exact ⟨[], rfl, rfl, (Nat.mod_one number).symm⟩
  | succ places ih =>
      obtain ⟨values, read, length, value⟩ := ih (number / 16)
      have last : hexValue? (hexDigit (number % 16)) = some (number % 16) :=
        hexValue?_hexDigit (Nat.mod_lt number (by decide))
      refine ⟨values ++ [number % 16], ?_, by simp [length], ?_⟩
      · simp [hexDigits, read, last]
      · rw [ofDigits_concat, value, Nat.pow_succ, Nat.mul_comm (16 ^ places) 16, Nat.mod_mul]
        omega

end Text

/-- A fingerprint is read back from its digits. -/
theorem Fingerprint.ofText_display (fingerprint : Fingerprint) :
    ofText fingerprint.display = .ok fingerprint := by
  obtain ⟨values, read, length, value⟩ := Text.mapM_hexDigits width fingerprint.word.toNat
  have whole : Text.ofDigits 16 values = fingerprint.word.toNat := by
    rw [value]
    exact Nat.mod_eq_of_lt fingerprint.word.isLt
  simp [ofText, display, read, length, whole]

end RepeatScan
