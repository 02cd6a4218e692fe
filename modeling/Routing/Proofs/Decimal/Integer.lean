/-
# Reading integers back

An integer of 64 bits is written in decimal, and what is written is read as that integer
(`int64?_renderInt64`).
-/

import Routing.Decimal.Number
import Routing.Proofs.Text.Digits

namespace Routing
namespace Number

/-- What an integer is written with. -/
def IsIntegerChar (c : Char) : Prop := Text.IsDigit c ∨ c = '-'

/-- An integer is written with digits and a sign. -/
theorem isIntegerChar_of_mem_decimalInt {n : Int} {c : Char} (h : c ∈ Text.decimalInt n) :
    IsIntegerChar c := by
  rw [Text.decimalInt] at h
  split at h
  · rcases List.mem_cons.mp h with h | h
    · exact .inr h
    · exact .inl (Text.isDigit_of_mem_decimal h)
  · exact .inl (Text.isDigit_of_mem_decimal h)

/-- An integer is written as something. -/
theorem decimalInt_ne_nil (n : Int) : Text.decimalInt n ≠ [] := by
  rw [Text.decimalInt]
  split
  · exact List.cons_ne_nil _ _
  · exact Text.decimal_ne_nil _

/-- An integer is written without blanks. -/
theorem isBlank_of_mem_renderInt64 {n : Int64} {c : Char} (h : c ∈ renderInt64 n) :
    Text.isBlank c = false := by
  rcases isIntegerChar_of_mem_decimalInt h with hc | rfl
  · exact Text.isBlank_of_isDigit hc
  · decide

/-- Digits have no sign. -/
theorem sign_of_isDigit {s : Text} (h : ∀ c ∈ s, Text.IsDigit c) : sign s = (false, s) := by
  unfold sign
  split
  · exact absurd (h '-' List.mem_cons_self) (by decide)
  · exact absurd (h '+' List.mem_cons_self) (by decide)
  · rfl

/-- An integer is read back as it was written, with its sign. -/
theorem int?_decimalInt (n : Int) : int? (Text.decimalInt n) = some n := by
  have hne := Text.decimal_ne_nil n.natAbs
  have hvalue := Text.digitsValue?_decimal n.natAbs
  rw [Text.decimalInt]
  split
  case isTrue h =>
    simp only [int?, sign, List.isEmpty_iff, hne, hvalue, if_false, if_true]
    exact congrArg some (by omega : -(n.natAbs : Int) = n)
  case isFalse h =>
    simp only [int?, sign_of_isDigit fun c hc => Text.isDigit_of_mem_decimal hc, List.isEmpty_iff,
      hne, hvalue, if_false, Bool.false_eq_true]
    exact congrArg some (by omega : (n.natAbs : Int) = n)

/-- **A written integer is read as it was.** -/
theorem int64?_renderInt64 (n : Int64) : int64? (renderInt64 n) = some n := by
  have hlow := n.le_toInt
  have hhigh := n.toInt_lt
  rw [int64?, renderInt64, int?_decimalInt]
  dsimp only
  rw [if_pos (by simp only [int64Limit]; omega), Int64.ofInt_toInt]

end Number
end Routing
