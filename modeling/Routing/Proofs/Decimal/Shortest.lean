/-
# The shortest decimal rounds back

The decimal that is found for a magnitude rounds to it (`rounds_shortest`).  Both neighbours of the
magnitude among the decimals of a length are tried, so a length is passed over only if none of its
decimals rounds to the magnitude; and with seventeen digits one does, because the decimals of that
length lie closer together than the midpoints around the magnitude (`exists_rounds`).

The decimal of an integer is an integer (`exponent_shortest_nonneg`): the integer itself is found
before any decimal with a point.

The search compares integers, so a power of ten is a pair of factors (`scale`), one for either side
of a comparison.  Here it is a power of rationals, and `zpow_eq_div` takes each comparison from the
one to the other.  Where the digits begin is guessed from the bit lengths; that the guess is right
up to a place comes from one bound on powers that is checked for all bit lengths
(`pow_le_fifty_mul`).
-/

import Mathlib.Algebra.Order.Field.Power
import Mathlib.Algebra.Order.Floor.Semifield
import Mathlib.Data.Rat.Floor
import Routing.Decimal.Shortest
import Routing.Proofs.Decimal.Rounding

namespace Routing
namespace Decimal

open Binary64

attribute [local irreducible] unitsOfOne

/-- The number that a decimal denotes. -/
def value (d : Decimal) : ℚ := d.digits * 10 ^ d.exponent

section Zeros

/-- Zeros at the end of the digits do not count. -/
theorem value_dropZeros (d : Decimal) (fuel : Nat) : (d.dropZeros fuel).value = d.value := by
  induction fuel generalizing d with
  | zero => rfl
  | succ fuel ih =>
    rw [dropZeros]
    split
    case isTrue h =>
      obtain ⟨m, hm⟩ := Nat.dvd_of_mod_eq_zero h.2
      rw [ih, value, value, hm, Nat.mul_div_cancel_left _ (by decide), zpow_add_one₀ (by decide)]
      push_cast
      ring
    case isFalse => rfl

/-- Dropping zeros raises the exponent. -/
theorem le_exponent_dropZeros (d : Decimal) (fuel : Nat) :
    d.exponent ≤ (d.dropZeros fuel).exponent := by
  induction fuel generalizing d with
  | zero => exact le_rfl
  | succ fuel ih =>
    rw [dropZeros]
    split
    · exact (Int.le_add_one le_rfl).trans (ih _)
    · exact le_rfl

end Zeros

section Powers

variable {num den : Nat} {e : Int}

/-- Both factors of a power of ten are positive. -/
theorem scale_pos (e : Int) : 0 < (scale e).1 ∧ 0 < (scale e).2 :=
  ⟨Nat.pow_pos (by decide), Nat.pow_pos (by decide)⟩

/-- A power of ten is the quotient of its two factors. -/
theorem zpow_eq_div (e : Int) : (10 : ℚ) ^ e = (scale e).1 / (scale e).2 := by
  show (10 : ℚ) ^ e = ((10 ^ e.toNat : ℕ) : ℚ) / ((10 ^ (-e).toNat : ℕ) : ℚ)
  push_cast
  rw [← zpow_natCast, ← zpow_natCast, ← zpow_sub₀ (by decide)]
  congr 1
  omega

/-- A decimal is the quotient of its factors. -/
theorem mul_zpow_eq_div (d : Nat) (e : Int) :
    (d : ℚ) * 10 ^ e = (d * (scale e).1 : ℕ) / (scale e).2 := by
  rw [zpow_eq_div, Nat.cast_mul, mul_div_assoc]

/-- Comparing a quotient with a power of ten takes integers alone. -/
theorem div_lt_zpow_iff (hden : 0 < den) :
    (num : ℚ) / den < 10 ^ e ↔ num * (scale e).2 < den * (scale e).1 := by
  have hpos : (0 : ℚ) < (scale e).2 := Nat.cast_pos.mpr (scale_pos e).2
  rw [zpow_eq_div, div_lt_div_iff₀ (Nat.cast_pos.mpr hden) hpos, mul_comm ((scale e).1 : ℚ)]
  norm_cast

/-- The logarithm of two to the base ten is close to 0.30103, for all bit lengths that occur. -/
theorem pow_le_fifty_mul : ∀ b < 1100, 10 ^ (b * 30103 / 100000) ≤ 50 * 2 ^ b ∧
    2 ^ b ≤ 50 * 10 ^ ((b * 30103 + 99999) / 100000) := by
  decide +kernel

/-- The guess is not too great for a number of so many bits. -/
theorem zpow_guess_le {bits : Int} (hlow : -1100 < bits) (hhigh : bits < 1100) :
    (10 : ℚ) ^ (bits * 30103 / 100000 - 2) ≤ 2 ^ (bits - 1) := by
  rw [zpow_sub₀ (by decide), zpow_sub₀ (by decide), div_le_div_iff₀ (by decide) (by decide)]
  rcases Int.eq_nat_or_neg bits with ⟨b, rfl | rfl⟩
  · have hpow := (pow_le_fifty_mul b (by omega)).1
    have hguess : (b : Int) * 30103 / 100000 = (b * 30103 / 100000 : ℕ) := by omega
    rw [hguess, zpow_natCast, zpow_natCast]
    have : ((10 ^ (b * 30103 / 100000) : ℕ) : ℚ) ≤ (50 * 2 ^ b : ℕ) := Nat.cast_le.mpr hpow
    push_cast at this
    linarith
  · have hpow := (pow_le_fifty_mul b (by omega)).2
    have hguess : -(b : Int) * 30103 / 100000 = -((b * 30103 + 99999) / 100000 : ℕ) := by omega
    rw [hguess, zpow_neg, zpow_neg, zpow_natCast, zpow_natCast]
    have : ((2 ^ b : ℕ) : ℚ) ≤ (50 * 10 ^ ((b * 30103 + 99999) / 100000) : ℕ) :=
      Nat.cast_le.mpr hpow
    push_cast at this
    rw [inv_mul_eq_div, inv_mul_eq_div, div_le_div_iff₀ (by positivity) (by positivity)]
    linarith

end Powers

section Magnitude

variable {num den : Nat}

/-- The quotient is at least the power of two that the bit lengths give. -/
theorem zpow_log2_le (hnum : num ≠ 0) (hden : 0 < den) :
    (2 : ℚ) ^ ((num.log2 : Int) - den.log2 - 1) ≤ num / den := by
  have hnumLow : ((2 ^ num.log2 : ℕ) : ℚ) ≤ num := Nat.cast_le.mpr (Nat.log2_self_le hnum)
  have hdenHigh : (den : ℚ) ≤ (2 ^ (den.log2 + 1) : ℕ) := Nat.cast_le.mpr Nat.lt_log2_self.le
  have hexponent : (num.log2 : Int) - den.log2 - 1 = (num.log2 : ℕ) - ((den.log2 + 1 : ℕ) : Int) := by
    omega
  rw [hexponent, zpow_sub₀ (by decide), zpow_natCast, zpow_natCast]
  push_cast at hnumLow hdenHigh
  exact div_le_div₀ (Nat.cast_nonneg _) hnumLow (Nat.cast_pos.mpr hden) hdenHigh

/-- The power of ten is not too great. -/
theorem zpow_magnitude_le (hnum : num ≠ 0) (hden : 0 < den)
    (hlow : -1100 < (num.log2 : Int) - den.log2) (hhigh : (num.log2 : Int) - den.log2 < 1100) :
    (10 : ℚ) ^ (magnitude num den - 1) ≤ num / den := by
  have hguess := (zpow_guess_le hlow hhigh).trans (zpow_log2_le hnum hden)
  rw [magnitude]
  dsimp only
  generalize (num.log2 : Int) - den.log2 = bits at *
  generalize hg : bits * 30103 / 100000 = g at *
  have hfits (p : Int) (h : ¬decide (num * (scale p).2 < den * (scale p).1)) :
      (10 : ℚ) ^ p ≤ num / den := by
    rw [decide_eq_true_iff, ← div_lt_zpow_iff hden] at h
    exact not_lt.mp h
  split
  · rwa [show g - 1 - 1 = g - 2 by omega]
  · split
    case isFalse.isTrue h _ =>
      rw [Int.add_sub_cancel]
      exact hfits _ h
    case isFalse.isFalse =>
      split
      case isTrue h _ =>
        rw [show g - 1 + 2 - 1 = g - 1 + 1 by omega]
        exact hfits _ h
      case isFalse h =>
        rw [show g - 1 + 3 - 1 = g - 1 + 2 by omega]
        exact hfits _ h

/-- The power of ten is above one if the quotient is not below. -/
theorem one_le_magnitude (hden : 0 < den) (h : den ≤ num) : 1 ≤ magnitude num den := by
  have hlog : den.log2 ≤ num.log2 :=
    (Nat.le_log2 (by omega)).mpr ((Nat.log2_self_le hden.ne').trans h)
  have hone : (1 : ℚ) ≤ num / den := by
    rw [one_le_div (Nat.cast_pos.mpr hden)]
    exact Nat.cast_le.mpr h
  have hfits (p : Int) (h : decide (num * (scale p).2 < den * (scale p).1) = true) : 1 ≤ p := by
    rw [decide_eq_true_iff, ← div_lt_zpow_iff hden] at h
    by_contra hp
    have : (10 : ℚ) ^ p ≤ 1 := zpow_le_one_of_nonpos₀ (by decide) (by omega)
    linarith
  rw [magnitude]
  dsimp only
  split
  case isTrue h => exact hfits _ h
  case isFalse =>
    split
    case isTrue h => exact hfits _ h
    case isFalse =>
      split
      case isTrue h => exact hfits _ h
      case isFalse => omega

end Magnitude

section Candidates

variable {tie : Tie} {r d : Nat} {e : Int}

/-- The magnitude of a rank. -/
def rankValue (r : Nat) : ℚ := (2 * units r : ℕ) / (2 * unitsOfOne : ℕ)

/-- The decimals of an exponent that are tried for a rank. -/
def tried (tie : Tie) (r : Nat) (e : Int) : List Nat :=
  candidates tie (r % 2 == 0) (low r) (2 * units r) (low (r + 1)) (2 * unitsOfOne) e

/-- The digits of the decimal just below a magnitude. -/
def below (r : Nat) (e : Int) : Nat := 2 * units r * (scale e).2 / (2 * unitsOfOne * (scale e).1)

/-- The decimal below a magnitude is not above it. -/
theorem below_le (r : Nat) (e : Int) : (below r e : ℚ) * 10 ^ e ≤ rankValue r := by
  have hunit : 0 < 2 * unitsOfOne * (scale e).1 :=
    Nat.mul_pos (Nat.mul_pos (by decide) unitsOfOne_pos) (scale_pos e).1
  have hle : below r e * (2 * unitsOfOne * (scale e).1) ≤ 2 * units r * (scale e).2 :=
    Nat.div_mul_le_self _ _
  have hcast : ((below r e * (2 * unitsOfOne * (scale e).1) : ℕ) : ℚ) ≤
    (2 * units r * (scale e).2 : ℕ) := Nat.cast_le.mpr hle
  rw [mul_zpow_eq_div, rankValue, div_le_div_iff₀ (Nat.cast_pos.mpr (scale_pos e).2)
    (Nat.cast_pos.mpr (Nat.mul_pos (by decide) unitsOfOne_pos))]
  push_cast at hcast ⊢
  linarith

/-- The next decimal is above the magnitude. -/
theorem lt_below_succ (r : Nat) (e : Int) : rankValue r < (below r e + 1 : ℕ) * 10 ^ e := by
  have hunit : 0 < 2 * unitsOfOne * (scale e).1 :=
    Nat.mul_pos (Nat.mul_pos (by decide) unitsOfOne_pos) (scale_pos e).1
  have hlt : 2 * units r * (scale e).2 < (below r e + 1) * (2 * unitsOfOne * (scale e).1) :=
    Nat.lt_mul_of_div_lt (Nat.lt_succ_self _) hunit
  have hcast : ((2 * units r * (scale e).2 : ℕ) : ℚ) <
    ((below r e + 1) * (2 * unitsOfOne * (scale e).1) : ℕ) := Nat.cast_lt.mpr hlt
  rw [mul_zpow_eq_div, rankValue, div_lt_div_iff₀
    (Nat.cast_pos.mpr (Nat.mul_pos (by decide) unitsOfOne_pos))
    (Nat.cast_pos.mpr (scale_pos e).2)]
  push_cast at hcast ⊢
  linarith

/-- A decimal that is tried is next to the magnitude and rounds to its rank. -/
theorem mem_tried_iff :
    d ∈ tried tie r e ↔ (d = below r e ∨ d = below r e + 1) ∧ Rounds r (d * 10 ^ e) := by
  rw [mul_zpow_eq_div, rounds_div_iff (scale_pos e).2, tried, candidates]
  dsimp only
  rw [List.mem_filter]
  refine and_congr ?_ ?_
  · rw [show 2 * units r * (scale e).2 / (2 * unitsOfOne * (scale e).1) = below r e from rfl]
    split
    · simp
    · simp [or_comm]
  · have hvalue : 2 * (d * (scale e).1 * unitsOfOne) = d * (2 * unitsOfOne * (scale e).1) := by ring
    rw [hvalue]
    by_cases heven : r % 2 = 0
    · simp [heven]
    · simp [heven]

/-- The magnitude of a rank, in units of the least one. -/
theorem rankValue_eq (r : Nat) : rankValue r = units r / unitsOfOne := by
  rw [rankValue]
  push_cast
  exact mul_div_mul_left _ _ two_ne_zero

/-- The magnitude of a rank rounds to the rank. -/
theorem rounds_rankValue (hr : 0 < r) : Rounds r (rankValue r) := by
  rw [rankValue_eq]
  exact rounds_units hr

/-- A length is passed over only if none of its decimals rounds to the rank. -/
theorem tried_ne_nil (hr : 0 < r) {j : Nat} (h : Rounds r (j * 10 ^ e)) : tried tie r e ≠ [] := by
  have hpow : (0 : ℚ) < 10 ^ e := zpow_pos (by decide) e
  have hself := rounds_rankValue hr
  have hbelow := below_le r e
  have habove := lt_below_succ r e
  rcases le_or_gt ((j : ℚ) * 10 ^ e) (rankValue r) with hle | hlt
  · have hj : j ≤ below r e := by
      have hlt : (j : ℚ) < (below r e + 1 : ℕ) :=
        lt_of_mul_lt_mul_right (hle.trans_lt habove) hpow.le
      exact Nat.lt_succ_iff.mp (Nat.cast_lt.mp hlt)
    have hrounds : Rounds r (below r e * 10 ^ e) := h.of_le_of_le hself
      (mul_le_mul_of_nonneg_right (Nat.cast_le.mpr hj) hpow.le) hbelow
    exact List.ne_nil_of_mem (mem_tried_iff.mpr ⟨.inl rfl, hrounds⟩)
  · have hj : below r e + 1 ≤ j :=
      Nat.cast_lt.mp (lt_of_mul_lt_mul_right (hbelow.trans_lt hlt) hpow.le)
    have hrounds : Rounds r ((below r e + 1 : ℕ) * 10 ^ e) := hself.of_le_of_le h habove.le
      (mul_le_mul_of_nonneg_right (Nat.cast_le.mpr hj) hpow.le)
    exact List.ne_nil_of_mem (mem_tried_iff.mpr ⟨.inr rfl, hrounds⟩)

/-- The midpoints around a magnitude are farther apart than numbers of seventeen digits are. -/
theorem low_add_lt (hr : 0 < r) {step : ℚ} (hstep : 10 ^ 16 * step ≤ 2 * units r) :
    (low r : ℚ) + step < low (r + 1) := by
  obtain ⟨k, d, hunits, hhigh, hlow⟩ := exists_low_eq hr
  have htwo : (0 : ℚ) < 2 ^ k := by positivity
  have hbit : (hiddenBit : ℚ) = 4503599627370496 := rfl
  rw [hunits] at hstep hhigh hlow
  rcases hlow with ⟨hlow, hd⟩ | ⟨hlow, rfl⟩
  · have hlow' : (low r : ℚ) + 2 ^ k = 2 * (d * 2 ^ k) := by exact_mod_cast hlow
    have hhigh' : (low (r + 1) : ℚ) = 2 * (d * 2 ^ k) + 2 ^ k := by exact_mod_cast hhigh
    have hd' : (d : ℚ) < 2 * 4503599627370496 := by
      rw [← hbit]
      exact_mod_cast hd
    have := mul_lt_mul_of_pos_right hd' htwo
    push_cast at hstep
    linarith
  · have hlow' : 2 * (low r : ℚ) + 2 ^ k = 4 * (hiddenBit * 2 ^ k) := by exact_mod_cast hlow
    have hhigh' : (low (r + 1) : ℚ) = 2 * (hiddenBit * 2 ^ k) + 2 ^ k := by exact_mod_cast hhigh
    push_cast at hstep
    rw [hbit] at *
    linarith

/-- Between numbers that are more than a step apart there is a multiple of the step. -/
theorem exists_mul_between {a b step : ℚ} (hstep : 0 < step) (hb : 0 < b) (h : a + step < b) :
    ∃ j : ℕ, a < j * step ∧ j * step < b := by
  have hceil := Nat.le_ceil (b / step)
  have hceilLt := Nat.ceil_lt_add_one (a := b / step) (div_pos hb hstep).le
  obtain ⟨j, hj⟩ := Nat.exists_eq_add_one_of_ne_zero (Nat.ceil_pos.mpr (div_pos hb hstep)).ne'
  rw [hj, Nat.cast_add, Nat.cast_one] at hceil hceilLt
  rw [div_le_iff₀ hstep] at hceil
  refine ⟨j, by linarith, ?_⟩
  rw [← lt_div_iff₀ hstep]
  linarith

/-- **With seventeen digits a decimal rounds to the rank.**  The numbers that round to it lie in an
interval which is wide enough for a multiple of the last digit's unit. -/
theorem exists_rounds (hr : 0 < r) {p : Int} (hp : (10 : ℚ) ^ (p - 1) ≤ rankValue r) :
    ∃ j : ℕ, Rounds r (j * 10 ^ (p - 17)) := by
  have hone : (0 : ℚ) < unitsOfOne := Nat.cast_pos.mpr unitsOfOne_pos
  have hpow : (0 : ℚ) < 10 ^ (p - 17) := zpow_pos (by decide) _
  -- The distance of the decimals, counted as the midpoints are.
  obtain ⟨step, hstep⟩ : ∃ step : ℚ, step = 2 * (10 ^ (p - 17) * unitsOfOne) := ⟨_, rfl⟩
  have hstepPos : 0 < step := by
    rw [hstep]
    positivity
  have hstepLe : 10 ^ 16 * step ≤ 2 * units r := by
    rw [rankValue_eq, le_div_iff₀ hone] at hp
    have hsplit : (10 : ℚ) ^ (p - 1) = 10 ^ 16 * 10 ^ (p - 17) := by
      rw [← zpow_natCast, ← zpow_add₀ (by decide)]
      congr 1
      push_cast
      ring
    rw [hsplit] at hp
    rw [hstep]
    linarith
  obtain ⟨j, hlow, hhigh⟩ := exists_mul_between hstepPos
    (Nat.cast_pos.mpr (low_pos (Nat.succ_pos r))) (low_add_lt hr hstepLe)
  have hvalue : 2 * ((j : ℚ) * 10 ^ (p - 17) * unitsOfOne) = j * step := by
    rw [hstep]
    ring
  exact ⟨j, rounds_of_lt (by rwa [hvalue]) (by rwa [hvalue])⟩

end Candidates

section Search

variable {tie : Tie} {r : Nat}

/-- The search ends at the first length of which a decimal rounds to the rank. -/
theorem exists_search_eq (tie : Tie) {p : Int} (n fuel : Nat)
    (h : ∃ i < fuel, tried tie r (p - (n + i : ℕ)) ≠ []) :
    ∃ i d, d ∈ tried tie r (p - (n + i : ℕ)) ∧
      (∀ j < i, tried tie r (p - (n + j : ℕ)) = []) ∧
      search tie (r % 2 == 0) (low r) (2 * units r) (low (r + 1)) (2 * unitsOfOne) p n fuel =
        ⟨d, p - (n + i : ℕ)⟩ := by
  induction fuel generalizing n with
  | zero =>
    obtain ⟨i, hi, -⟩ := h
    exact absurd hi (Nat.not_lt_zero i)
  | succ fuel ih =>
    rw [search, ← tried]
    cases htried : tried tie r (p - n) with
    | cons d rest =>
      exact ⟨0, d, htried ▸ List.mem_cons_self, fun j hj => absurd hj (Nat.not_lt_zero j), rfl⟩
    | nil =>
      -- This length has none, so the first one that has some is a later one.
      obtain ⟨i, hi, hne⟩ := h
      cases i with
      | zero => exact absurd htried hne
      | succ i =>
        obtain ⟨i, d, hmem, hmin, heq⟩ := ih (n := n + 1)
          ⟨i, Nat.lt_of_succ_lt_succ hi, by rwa [Nat.add_right_comm n 1 i, Nat.add_assoc]⟩
        have hshift (i : Nat) : n + 1 + i = n + (i + 1) := by omega
        rw [hshift] at hmem heq
        refine ⟨i + 1, d, hmem, fun j hj => ?_, heq⟩
        cases j with
        | zero => exact htried
        | succ j => exact hshift j ▸ hmin j (Nat.lt_of_succ_lt_succ hj)

/-- The bit lengths of the magnitudes of the format. -/
theorem abs_log2_lt (hr : 0 < r) (hfinite : r < finiteMagnitudes) :
    -1100 < ((2 * units r).log2 : Int) - (2 * unitsOfOne).log2 ∧
      ((2 * units r).log2 : Int) - (2 * unitsOfOne).log2 < 1100 := by
  obtain ⟨k, hk⟩ : ∃ k, k = 1074 := ⟨_, rfl⟩
  obtain ⟨m, hm⟩ : ∃ m, m = 2045 := ⟨_, rfl⟩
  have hbit : hiddenBit = 2 ^ 52 := rfl
  have hone : (2 * unitsOfOne).log2 = k + 1 := by
    rw [unitsOfOne_eq hk, ← Nat.pow_succ', Nat.log2_two_pow]
  have hend : finiteMagnitudes = m * hiddenBit + 2 * hiddenBit := by
    rw [finiteMagnitudes, hm]
    rfl
  have hunits : 2 * units r ≠ 0 := by
    have := units_strictMono hr
    omega
  have hlt : 2 * units r < 2 ^ (m + 54) := by
    have := units_strictMono hfinite
    rw [hend, units_add (by omega) le_rfl, hbit] at this
    rw [Nat.pow_add]
    omega
  have hlog := (Nat.log2_lt hunits).mpr hlt
  rw [hone]
  omega

/-- What the search finds for a magnitude. -/
theorem exists_shortest_eq (tie : Tie) (hr : 0 < r) (hfinite : r < finiteMagnitudes) :
    ∃ i d, d ∈ tried tie r (magnitude (2 * units r) (2 * unitsOfOne) - (1 + i : ℕ)) ∧
      (∀ j < i, tried tie r (magnitude (2 * units r) (2 * unitsOfOne) - (1 + j : ℕ)) = []) ∧
      shortest tie r =
        dropZeros ⟨d, magnitude (2 * units r) (2 * unitsOfOne) - (1 + i : ℕ)⟩ 17 := by
  have hunits : 2 * units r ≠ 0 := by
    have := units_strictMono hr
    omega
  have hden : 0 < 2 * unitsOfOne := Nat.mul_pos (by decide) unitsOfOne_pos
  obtain ⟨hlow, hhigh⟩ := abs_log2_lt hr hfinite
  have hp := zpow_magnitude_le hunits hden hlow hhigh
  obtain ⟨j, hj⟩ := exists_rounds hr hp
  obtain ⟨i, d, hmem, hmin, heq⟩ := exists_search_eq tie 1 17
    ⟨16, by decide, tried_ne_nil hr hj⟩
  refine ⟨i, d, hmem, hmin, ?_⟩
  rw [shortest, if_neg hr.ne', ← heq]
  rfl

/-- **The shortest decimal of a magnitude rounds to it.**  The search takes only what rounds to the
magnitude, and ends, since with seventeen digits there is such a decimal. -/
theorem rounds_shortest (tie : Tie) (hr : 0 < r) (hfinite : r < finiteMagnitudes) :
    Rounds r (shortest tie r).value := by
  obtain ⟨i, d, hmem, -, heq⟩ := exists_shortest_eq tie hr hfinite
  rw [heq, value_dropZeros]
  exact (mem_tried_iff.mp hmem).2

/-- A positive magnitude has a digit that is not zero. -/
theorem digits_shortest_ne_zero (tie : Tie) (hr : 0 < r) (hfinite : r < finiteMagnitudes) :
    (shortest tie r).digits ≠ 0 := by
  intro hzero
  have := (rounds_shortest tie hr hfinite).pos hr
  rw [value, hzero, Nat.cast_zero, zero_mul] at this
  exact lt_irrefl _ this

/-- **The shortest decimal of an integer is an integer.** -/
theorem exponent_shortest_nonneg (tie : Tie) (hfinite : r < finiteMagnitudes)
    (h : units r % unitsOfOne = 0) : 0 ≤ (shortest tie r).exponent := by
  rcases Nat.eq_zero_or_pos r with rfl | hr
  · exact le_rfl
  · obtain ⟨i, d, -, hmin, heq⟩ := exists_shortest_eq tie hr hfinite
    obtain ⟨m, hm⟩ := Nat.dvd_of_mod_eq_zero h
    -- The integer, as a decimal with the exponent zero.
    have hself : Rounds r (m * 10 ^ (0 : Int)) := by
      have := rounds_units hr
      have hone : (unitsOfOne : ℚ) ≠ 0 := Nat.cast_ne_zero.mpr unitsOfOne_pos.ne'
      rw [hm, Nat.cast_mul, mul_div_cancel_left₀ _ hone] at this
      rwa [zpow_zero, mul_one]
    have hmpos : 0 < m := by
      refine Nat.pos_of_ne_zero ?_
      rintro rfl
      have := units_strictMono hr
      omega
    have hp : 1 ≤ magnitude (2 * units r) (2 * unitsOfOne) :=
      one_le_magnitude (Nat.mul_pos (by decide) unitsOfOne_pos)
        (by rw [hm]; exact Nat.mul_le_mul_left 2 (Nat.le_mul_of_pos_right _ hmpos))
    rw [heq]
    refine le_trans ?_ (le_exponent_dropZeros _ _)
    dsimp only
    generalize magnitude (2 * units r) (2 * unitsOfOne) = p at *
    -- The integer itself would have been found before.
    by_contra hneg
    have hzero : p - (1 + (p - 1).toNat : ℕ) = 0 := by omega
    have hnil := hmin (p - 1).toNat (by omega)
    rw [hzero] at hnil
    exact tried_ne_nil hr hself hnil

end Search

end Decimal
end Routing
