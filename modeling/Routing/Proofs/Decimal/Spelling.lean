/-
# How integers are spelt

Digits denote a number, by the place of each of them (`Text.number`), and with a sign or without one
they spell an integer (`Number.Spells`).  An integer is read from its spellings and from nothing
else (`int?_eq_some_iff`), and one of 64 bits if it is in range.
-/

import Mathlib.Data.Nat.Digits.Defs
import Routing.Proofs.Decimal.Integer

namespace Routing
namespace Text

/-- The number that decimal digits denote, by the place of each of them. -/
def number (s : Text) : Nat := Nat.ofDigits 10 (s.reverse.map fun c => c.toNat - '0'.toNat)

/-- A digit at the end counts ones, and those before it count ten times as much. -/
theorem number_append_singleton (s : Text) (c : Char) :
    number (s ++ [c]) = 10 * number s + (c.toNat - '0'.toNat) := by
  rw [number, List.reverse_append, List.reverse_singleton, List.singleton_append, List.map_cons,
    Nat.ofDigits_cons, Nat.add_comm]
  rfl

/-- **Digits are read as the number that they denote.** -/
theorem digitsValue?_eq_some_iff {s : Text} {n : Nat} :
    digitsValue? s = some n ↔ (∀ c ∈ s, IsDigit c) ∧ n = number s := by
  induction s using List.reverseRecOn generalizing n with
  | nil => simp [digitsValue?, number, eq_comm]
  | append_singleton s c ih =>
    have hdigit (k : Nat) : digitValue? c = some k ↔ IsDigit c ∧ c.toNat - '0'.toNat = k := by
      rw [digitValue?, Option.ite_none_right_eq_some, Option.some_inj]
      rfl
    rw [digitsValue?_append_singleton, number_append_singleton]
    simp only [Option.bind_eq_some_iff, Option.map_eq_some_iff, ih, hdigit, List.mem_append,
      List.mem_singleton]
    constructor
    · rintro ⟨_, ⟨hs, rfl⟩, _, ⟨hc, rfl⟩, rfl⟩
      exact ⟨fun d hd => hd.elim (hs d) fun heq => heq ▸ hc, rfl⟩
    · rintro ⟨h, rfl⟩
      exact ⟨_, ⟨fun d hd => h d (.inl hd), rfl⟩, _, ⟨h c (.inr rfl), rfl⟩, rfl⟩

end Text

namespace Number

/-- At least one digit, and nothing else. -/
def IsDigits (s : Text) : Prop := s ≠ [] ∧ ∀ c ∈ s, Text.IsDigit c

/-- How an integer is spelt. -/
inductive Spells : Text → Int → Prop where
  /-- By its digits. -/
  | unsigned {s : Text} : IsDigits s → Spells s (Text.number s)
  /-- With a sign that changes nothing. -/
  | plus {s : Text} : IsDigits s → Spells ('+' :: s) (Text.number s)
  /-- With the sign of the opposite. -/
  | minus {s : Text} : IsDigits s → Spells ('-' :: s) (-(Text.number s : Int))

/-- A text spells the integer of its digits and its sign. -/
theorem spells_iff {s : Text} {n : Int} :
    Spells s n ↔ IsDigits (sign s).2 ∧
      n = if (sign s).1 then -(Text.number (sign s).2 : Int) else Text.number (sign s).2 := by
  constructor
  · intro h
    cases h with
    | unsigned h => rw [sign_of_isDigit h.2]; exact ⟨h, rfl⟩
    | plus h => exact ⟨h, rfl⟩
    | minus h => exact ⟨h, rfl⟩
  · rintro ⟨h, rfl⟩
    unfold sign at h ⊢
    split at h
    case h_1 => exact .minus h
    case h_2 => exact .plus h
    case h_3 => exact .unsigned h

/-- **An integer is read from its spellings**, and from nothing else. -/
theorem int?_eq_some_iff {s : Text} {n : Int} : int? s = some n ↔ Spells s n := by
  have hread : int? s = if (sign s).2.isEmpty then none else
      (Text.digitsValue? (sign s).2).map fun n : Nat => if (sign s).1 then -(n : Int) else n := by
    unfold int?
    cases sign s with
    | mk negative digits => cases h : Text.digitsValue? digits <;> simp [h]
  rw [hread, spells_iff, Option.ite_none_left_eq_some, List.isEmpty_iff, IsDigits, and_assoc]
  simp only [Option.map_eq_some_iff, Text.digitsValue?_eq_some_iff]
  refine and_congr_right fun _ => ?_
  constructor
  · rintro ⟨_, ⟨hdigits, rfl⟩, hn⟩
    exact ⟨hdigits, hn.symm⟩
  · rintro ⟨hdigits, hn⟩
    exact ⟨_, ⟨hdigits, rfl⟩, hn.symm⟩

/-- An integer of 64 bits is read from its spellings. -/
theorem int64?_eq_some_iff {s : Text} {n : Int64} : int64? s = some n ↔ Spells s n.toInt := by
  rw [← int?_eq_some_iff, int64?]
  cases int? s with
  | none => simp
  | some m =>
    dsimp only
    constructor
    · intro h
      split at h
      case isTrue hm =>
        obtain rfl := Option.some.inj h
        rw [Int64.toInt_ofInt_of_le hm.1 (hm.2)]
      case isFalse => cases h
    · intro h
      obtain rfl := Option.some.inj h
      have hlow := n.le_toInt
      have hhigh := n.toInt_lt
      rw [if_pos (by simp only [int64Limit]; omega), Int64.ofInt_toInt]

/-- Neither signs nor digits are blanks. -/
theorem Spells.isBlank {s : Text} {n : Int} (h : Spells s n) : ∀ c ∈ s, Text.isBlank c = false := by
  have hdigits {s : Text} (h : IsDigits s) : ∀ c ∈ s, Text.isBlank c = false :=
    fun c hc => Text.isBlank_of_isDigit (h.2 c hc)
  cases h with
  | unsigned h => exact hdigits h
  | plus h => exact List.forall_mem_cons.mpr ⟨by decide, hdigits h⟩
  | minus h => exact List.forall_mem_cons.mpr ⟨by decide, hdigits h⟩

end Number
end Routing
