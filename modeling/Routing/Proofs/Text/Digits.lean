/-
# Decimal digits read back

The decimal form of a number consists of digits, is not empty, and denotes the number
(`digitsValue?_decimal`), also when it is filled up with zeros.  So different numbers have
different forms.

Numbers are written from the last digit on: all digits but the last are those of the tenth part.
So the proofs are by strong induction on the number, or by induction on the text from its end, and
`digitsValue?_append_singleton` is the step of the reader that fits this step of the writer.
-/

import Mathlib.Algebra.Group.Nat.Defs
import Mathlib.Data.List.Induction
import Routing.Text.Basic

namespace Routing
namespace Text

/-- A decimal digit of ASCII. -/
def IsDigit (c : Char) : Prop := '0' ≤ c ∧ c ≤ '9'

instance (c : Char) : Decidable (IsDigit c) := inferInstanceAs (Decidable (_ ∧ _))

/-- A number below ten is written with a digit. -/
theorem isDigit_digit : ∀ n < 10, IsDigit (digit n) := by decide

/-- No digit is a blank, so that trimming leaves a number alone. -/
theorem isBlank_of_isDigit {c : Char} (h : IsDigit c) : isBlank c = false := by
  obtain ⟨hlow, hhigh⟩ := h
  rw [Char.le_def, UInt32.le_iff_toNat_le] at hlow hhigh
  have hlow : 48 ≤ c.toNat := hlow
  have hhigh : c.toNat ≤ 57 := hhigh
  simp only [isBlank]
  simp only [Bool.or_eq_false_iff, Bool.and_eq_false_iff, decide_eq_false_iff_not,
    beq_eq_false_iff_ne]
  omega

/-- The digit of a number below ten has the number for its value. -/
theorem digitValue?_digit : ∀ n < 10, digitValue? (digit n) = some n := by decide

/-- A digit at the end makes the value ten times as large and adds its own. -/
theorem digitsValue?_append_singleton (s : Text) (c : Char) :
    digitsValue? (s ++ [c]) =
      (digitsValue? s).bind fun v => (digitValue? c).map (10 * v + ·) := by
  rw [digitsValue?, List.foldl_append]
  rfl

/-- A digit has a value below ten. -/
theorem lt_of_digitValue? {c : Char} {n : Nat} (h : digitValue? c = some n) : n < 10 := by
  rw [digitValue?] at h
  split at h
  case isTrue hdigit =>
    obtain ⟨-, hhigh⟩ := hdigit
    rw [Char.le_def, UInt32.le_iff_toNat_le] at hhigh
    have hhigh : c.toNat ≤ 57 := hhigh
    obtain rfl := Option.some.inj h
    omega
  case isFalse => cases h

/-- Digits denote less than the power of ten that has one digit more. -/
theorem lt_of_digitsValue? {s : Text} {n : Nat} (h : digitsValue? s = some n) :
    n < 10 ^ s.length := by
  induction s using List.reverseRecOn generalizing n with
  | nil =>
    obtain rfl := Option.some.inj h
    decide
  | append_singleton s c ih =>
    rw [digitsValue?_append_singleton] at h
    obtain ⟨v, hv, h⟩ := Option.bind_eq_some_iff.mp h
    obtain ⟨k, hk, rfl⟩ := Option.map_eq_some_iff.mp h
    have hvalue := ih hv
    have hdigit := lt_of_digitValue? hk
    rw [List.length_append, List.length_singleton, Nat.pow_succ]
    omega

/-- A number below ten has one digit. -/
theorem decimal_of_lt {n : Nat} (h : n < 10) : decimal n = [digit n] := by
  rw [decimal, if_pos h]

/-- Any other number has the digits of its tenth part and one more. -/
theorem decimal_of_le {n : Nat} (h : 10 ≤ n) :
    decimal n = decimal (n / 10) ++ [digit (n % 10)] := by
  rw [decimal, if_neg (by omega)]

/-- **The decimal form of a number denotes it.** -/
@[simp]
theorem digitsValue?_decimal (n : Nat) : digitsValue? (decimal n) = some n := by
  induction n using Nat.strongRecOn with
  | ind n ih =>
    rcases Nat.lt_or_ge n 10 with h | h
    · rw [decimal_of_lt h]
      simp [digitsValue?, digitValue?_digit n h]
    · rw [decimal_of_le h, digitsValue?_append_singleton, ih (n / 10) (by omega),
        digitValue?_digit _ (by omega)]
      simp only [Option.bind_some, Option.map_some, Option.some.injEq]
      omega

/-- Numbers that are written alike are equal, as both are read back. -/
theorem decimal_injective {m n : Nat} (h : decimal m = decimal n) : m = n := by
  have := congrArg digitsValue? h
  simpa using this

/-- A number is written with digits alone. -/
theorem isDigit_of_mem_decimal {n : Nat} {c : Char} (h : c ∈ decimal n) : IsDigit c := by
  induction n using Nat.strongRecOn with
  | ind n ih =>
    rcases Nat.lt_or_ge n 10 with hn | hn
    · rw [decimal_of_lt hn, List.mem_singleton] at h
      exact h ▸ isDigit_digit n hn
    · rw [decimal_of_le hn, List.mem_append, List.mem_singleton] at h
      rcases h with h | rfl
      · exact ih (n / 10) (by omega) h
      · exact isDigit_digit _ (by omega)

/-- Zeros at the end multiply by ten. -/
theorem decimal_mul_pow {n : Nat} (hn : n ≠ 0) (k : Nat) :
    decimal (n * 10 ^ k) = decimal n ++ List.replicate k '0' := by
  induction k with
  | zero => simp
  | succ k ih =>
    have hpos : 0 < n * 10 ^ k := Nat.mul_pos (Nat.pos_of_ne_zero hn) (Nat.pow_pos (by decide))
    have hten : n * 10 ^ (k + 1) = n * 10 ^ k * 10 := by rw [Nat.pow_succ, Nat.mul_assoc]
    rw [hten, decimal_of_le (by omega), Nat.mul_div_cancel _ (by decide), Nat.mul_mod_left, ih,
      List.append_assoc, List.replicate_succ']
    rfl

/-- Zero is written too: no number has an empty form. -/
theorem decimal_ne_nil (n : Nat) : decimal n ≠ [] := by
  rcases Nat.lt_or_ge n 10 with h | h
  · simp [decimal_of_lt h]
  · simp [decimal_of_le h]

/-- A number below a power of ten has no more digits than the power has zeros. -/
theorem length_decimal_le {n k : Nat} (h : n < 10 ^ (k + 1)) : (decimal n).length ≤ k + 1 := by
  induction k generalizing n with
  | zero => simp [decimal_of_lt (show n < 10 by simpa using h)]
  | succ k ih =>
    rcases Nat.lt_or_ge n 10 with hn | hn
    · simp [decimal_of_lt hn]
    · have := ih (n := n / 10) (by rw [Nat.pow_succ] at h; omega)
      simp only [decimal_of_le hn, List.length_append, List.length_singleton]
      omega

/-- Zeros in front do not change what digits denote. -/
theorem digitsValue?_replicate_zero_append (k : Nat) (s : Text) :
    digitsValue? (List.replicate k '0' ++ s) = digitsValue? s := by
  induction k with
  | zero => rfl
  | succ k ih =>
    rw [List.replicate_succ, List.cons_append, ← ih]
    rfl

/-- Filling up with zeros does not change what is read. -/
@[simp]
theorem digitsValue?_decimalPadded (width n : Nat) :
    digitsValue? (decimalPadded width n) = some n := by
  rw [decimalPadded, digitsValue?_replicate_zero_append, digitsValue?_decimal]

/-- What fills up a number is digits as well. -/
theorem isDigit_of_mem_decimalPadded {width n : Nat} {c : Char} (h : c ∈ decimalPadded width n) :
    IsDigit c := by
  rw [decimalPadded, List.mem_append] at h
  rcases h with h | h
  · rw [List.eq_of_mem_replicate h]
    decide
  · exact isDigit_of_mem_decimal h

/-- A number that is filled up is not empty, even to the width zero. -/
theorem decimalPadded_ne_nil (width n : Nat) : decimalPadded width n ≠ [] := by
  simp [decimalPadded, decimal_ne_nil]

/-- A number takes up its width, and more only if it has more digits. -/
theorem length_decimalPadded (width n : Nat) :
    (decimalPadded width n).length = max width (decimal n).length := by
  rw [decimalPadded, List.length_append, List.length_replicate]
  omega

end Text
end Routing
