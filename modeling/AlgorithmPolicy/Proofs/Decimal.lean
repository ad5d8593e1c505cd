import Mathlib.Data.List.Basic
import Mathlib.Data.List.Induction
import AlgorithmPolicy.Decimal

/-! Which characters the decimal notations consist of, and where they end in a longer text. -/

namespace AlgorithmPolicy.Decimal

theorem isDigit_digitCharacter {digit : Nat} (small : digit < 10) :
    (digitCharacter digit).isDigit = true := by
  have all : ∀ digit < 10, (digitCharacter digit).isDigit = true := by decide
  exact all digit small

theorem digitCharacter_eq_zero_iff {digit : Nat} (small : digit < 10) :
    digitCharacter digit = '0' ↔ digit = 0 := by
  have all : ∀ digit < 10, digitCharacter digit = '0' ↔ digit = 0 := by decide
  exact all digit small

/-! ## Variable width -/

theorem isDigit_of_mem_digits {number : Nat} {character : Char}
    (member : character ∈ digits number) : character.isDigit = true := by
  induction number using digits.induct with
  | case1 number small =>
      rw [digits, if_pos small] at member
      rw [List.mem_singleton.mp member]
      exact isDigit_digitCharacter small
  | case2 number large induction =>
      rw [digits, if_neg large] at member
      rcases List.mem_append.mp member with inFront | isLast
      · exact induction inFront
      · rw [List.mem_singleton.mp isLast]
        exact isDigit_digitCharacter (Nat.mod_lt _ (by decide))

theorem digits_ne_nil (number : Nat) : digits number ≠ [] := by
  rw [digits]
  split <;> simp

/-- Only zero starts with a zero. -/
theorem head?_digits_eq_zero_iff (number : Nat) :
    (digits number).head? = some '0' ↔ number = 0 := by
  induction number using digits.induct with
  | case1 number small =>
      rw [digits, if_pos small]
      simp [digitCharacter_eq_zero_iff small]
  | case2 number large induction =>
      rw [digits, if_neg large, List.head?_append_of_ne_nil _ (digits_ne_nil _), induction]
      omega

theorem digits_injective {left right : Nat} (same : digits left = digits right) :
    left = right := by
  rw [← value_digits left, same, value_digits]

theorem digitCharacter_digitValue {character : Char} (isDigit : character.isDigit = true) :
    digitCharacter (digitValue character) = character := by
  simp only [Char.isDigit, Bool.and_eq_true, decide_eq_true_eq, ge_iff_le, UInt32.le_iff_toNat_le]
    at isDigit
  have isCode : '0'.toNat + (character.toNat - '0'.toNat) = character.toNat :=
    Nat.add_sub_cancel' isDigit.1
  rw [digitCharacter, digitValue, isCode, Char.ofNat_toNat]

theorem digitValue_lt {character : Char} (isDigit : character.isDigit = true) :
    digitValue character < 10 := by
  simp only [Char.isDigit, Bool.and_eq_true, decide_eq_true_eq, ge_iff_le, UInt32.le_iff_toNat_le]
    at isDigit
  have last : character.toNat ≤ 57 := isDigit.2
  have isZero : '0'.toNat = 48 := rfl
  rw [digitValue, isZero]
  omega

/-- Digits without a leading zero are the digits of their number. -/
theorem digits_value {characters : List Char} (nonempty : characters ≠ [])
    (areDigits : ∀ character ∈ characters, character.isDigit = true)
    (leading : characters.head? = some '0' → characters = ['0']) :
    digits (value characters) = characters := by
  induction characters using List.reverseRecOn with
  | nil => exact absurd rfl nonempty
  | append_singleton front last induction =>
      have isDigit := areDigits last (by simp)
      have small := digitValue_lt isDigit
      rw [value_append_singleton, digits]
      by_cases isEmpty : front = []
      · subst isEmpty
        simp [value, small, digitCharacter_digitValue isDigit]
      · have noZero : front.head? ≠ some '0' := by
          intro isZero
          have whole := leading (by rw [List.head?_append_of_ne_nil _ isEmpty, isZero])
          simp_all [List.append_eq_singleton_iff]
        have isFront := induction isEmpty
          (fun character member => areDigits character (by simp [member]))
          (fun isZero => absurd isZero noZero)
        have positive : value front ≠ 0 := by
          rw [← isFront] at noZero
          exact fun isZero => noZero ((head?_digits_eq_zero_iff _).mpr isZero)
        have quotient : (value front * 10 + digitValue last) / 10 = value front := by omega
        have remainder : (value front * 10 + digitValue last) % 10 = digitValue last := by omega
        rw [if_neg (by omega), quotient, remainder, isFront, digitCharacter_digitValue isDigit]

theorem length_digits_le {number width : Nat} (small : number < powerOfTen (width + 1)) :
    (digits number).length ≤ width + 1 := by
  induction width generalizing number with
  | zero =>
      have oneDigit : number < 10 := small
      rw [digits, if_pos oneDigit]
      exact Nat.le_refl 1
  | succ width induction =>
      rw [powerOfTen_succ] at small
      rw [digits]
      split
      · simp
      · rw [List.length_append]
        exact Nat.succ_le_succ (induction (by omega))

/-! ## Fixed width -/

theorem isDigit_of_mem_fixedWidth {width number : Nat} {character : Char}
    (member : character ∈ fixedWidth width number) : character.isDigit = true := by
  induction width generalizing number with
  | zero => cases member
  | succ width induction =>
      rw [fixedWidth] at member
      rcases List.mem_append.mp member with inFront | isLast
      · exact induction inFront
      · rw [List.mem_singleton.mp isLast]
        exact isDigit_digitCharacter (Nat.mod_lt _ (by decide))

theorem value_append_zeros (characters : List Char) (count : Nat) :
    value (characters ++ List.replicate count '0') =
      value characters * powerOfTen count := by
  induction count with
  | zero => simp [powerOfTen]
  | succ count induction =>
      rw [List.replicate_succ', ← List.append_assoc, value_append_singleton, induction,
        powerOfTen_succ]
      have noValue : digitValue '0' = 0 := by decide
      rw [noValue, Nat.add_zero, Nat.mul_assoc, Nat.mul_comm 10]

/-! ## Digits at the front of a text -/

/-- Digits end before a text that does not start with one. -/
theorem takeWhile_isDigit_append {front rest : List Char}
    (digits : ∀ character ∈ front, character.isDigit = true)
    (ends : ∀ character ∈ rest.head?, character.isDigit = false) :
    (front ++ rest).takeWhile Char.isDigit = front := by
  rw [List.takeWhile_append_of_pos digits]
  cases rest with
  | nil => simp
  | cons first rest => simp [ends first rfl]

theorem dropWhile_isDigit_append {front rest : List Char}
    (digits : ∀ character ∈ front, character.isDigit = true)
    (ends : ∀ character ∈ rest.head?, character.isDigit = false) :
    (front ++ rest).dropWhile Char.isDigit = rest := by
  rw [List.dropWhile_append_of_pos digits]
  cases rest with
  | nil => rfl
  | cons first rest => simp [ends first rfl]

end AlgorithmPolicy.Decimal
