/-
# Rounding to the nearest number of the format

A rational number rounds to the magnitude of a rank if it lies between the midpoints to the two
neighbours of that magnitude, or on one of them if the rank is even (`Rounds`).  It rounds to at
most one rank (`Rounds.unique`), and `Binary64.round` finds it (`round_eq_ofRank`).

The magnitudes of the ranks from `k * hiddenBit` on are multiples of `2 ^ k` (`units_add`), so
rounding the quotient by `2 ^ k` to an integer rounds to a rank (`rounds_divideRounding`).

All is kept in natural numbers, as multiples of the least positive magnitude (`units`), with twice
the midpoints for the bounds (`low`), so no quotient has to be rounded in a proof either.  The two
cases of `Rounds` and of `divideRounding_spec` are the two ways to settle a tie, and rank and
significand have the same parity because `hiddenBit` is even.
-/

import Mathlib.Algebra.Order.Field.Basic
import Mathlib.Order.Monotone.Basic
import Mathlib.Tactic.Linarith
import Mathlib.Tactic.Ring
import Routing.Decimal.Binary64

namespace Routing
namespace Binary64

/-- One is a positive multiple of the least magnitude. -/
theorem unitsOfOne_pos : 0 < unitsOfOne := by decide +kernel

/-- The exponent is kept as a variable. -/
theorem unitsOfOne_eq {k : Nat} (hk : k = 1074) : unitsOfOne = 2 ^ k := by
  unfold unitsOfOne
  rw [← hk, Nat.pow_eq]

-- The power is far too great to be unfolded.
attribute [local irreducible] unitsOfOne

section Ranks

variable {k d r : Nat}

/-- A rank with an exponent and a significand. -/
theorem units_add (h : k = 0 ∨ hiddenBit ≤ d) (hd : d ≤ 2 * hiddenBit) :
    units (k * hiddenBit + d) = d * 2 ^ k := by
  have hbit : hiddenBit = 4503599627370496 := rfl
  show significand _ * 2 ^ shift _ = _
  rcases Nat.lt_or_ge d hiddenBit with hlt | hge
  · obtain rfl : k = 0 := by omega
    rw [Nat.zero_mul, Nat.zero_add, significand, shift, if_pos hlt, Nat.div_eq_of_lt hlt]
  · have hnot : ¬k * hiddenBit + d < hiddenBit := by omega
    rw [significand, if_neg hnot, shift]
    rcases Nat.lt_or_ge d (2 * hiddenBit) with hlt | hge'
    · obtain ⟨m, rfl⟩ := Nat.exists_eq_add_of_le hge
      have hm : m < hiddenBit := by omega
      have hrank : k * hiddenBit + (hiddenBit + m) = m + hiddenBit * (k + 1) := by
        rw [Nat.mul_comm hiddenBit, Nat.add_mul]
        omega
      rw [hrank, Nat.add_mul_mod_self_left, Nat.mod_eq_of_lt hm,
        Nat.add_mul_div_left _ _ (by decide), Nat.div_eq_of_lt hm, Nat.zero_add, Nat.add_sub_cancel]
    · obtain rfl : d = 2 * hiddenBit := Nat.le_antisymm hd hge'
      have hrank : k * hiddenBit + 2 * hiddenBit = 0 + hiddenBit * (k + 2) := by
        rw [Nat.mul_comm hiddenBit, Nat.add_mul, Nat.zero_add]
      rw [hrank, Nat.add_mul_mod_self_left, Nat.zero_mod, Nat.add_mul_div_left _ _ (by decide),
        Nat.zero_div, Nat.zero_add, Nat.add_zero, show k + 2 - 1 = k + 1 from rfl, Nat.pow_succ,
        Nat.mul_comm (2 ^ k), ← Nat.mul_assoc, Nat.mul_comm hiddenBit]

/-- Every rank has an exponent and a significand. -/
theorem exists_rank (r : Nat) :
    ∃ k d, r = k * hiddenBit + d ∧ (k = 0 ∨ hiddenBit ≤ d) ∧ d < 2 * hiddenBit := by
  have hbit : hiddenBit = 4503599627370496 := rfl
  refine ⟨r / hiddenBit - 1, r - (r / hiddenBit - 1) * hiddenBit, ?_, ?_, ?_⟩
  all_goals
    rw [hbit]
    omega

/-- The next rank has a greater magnitude. -/
theorem units_lt_succ (r : Nat) : units r < units (r + 1) := by
  obtain ⟨k, d, rfl, hnormal, hd⟩ := exists_rank r
  rw [Nat.add_assoc, units_add hnormal (by omega), units_add (by omega) (by omega), Nat.add_mul]
  have := Nat.pow_pos (n := k) (show 0 < 2 by decide)
  omega

/-- Greater ranks have greater magnitudes. -/
theorem units_strictMono : StrictMono units := strictMono_nat_of_lt_succ units_lt_succ

/-- Twice the midpoint between the magnitude of a rank and the one before it, as a multiple of the
least positive magnitude. -/
def low (r : Nat) : Nat := units (r - 1) + units r

/-- The midpoint above a magnitude. -/
theorem low_succ (r : Nat) : low (r + 1) = units r + units (r + 1) := rfl

/-- The midpoint above a magnitude, by its exponent and its significand. -/
theorem low_add {k d : Nat} (hnormal : k = 0 ∨ hiddenBit ≤ d) (hd : d < 2 * hiddenBit) :
    low (k * hiddenBit + d + 1) = (2 * d + 1) * 2 ^ k := by
  have hsucc := units_add (d := d + 1) (hnormal.imp_right fun h => Nat.le_succ_of_le h) hd
  rw [low_succ, units_add hnormal hd.le, Nat.add_assoc, hsucc]
  ring

/-- Greater ranks have greater midpoints. -/
theorem low_strictMono : StrictMono low := by
  refine strictMono_nat_of_lt_succ fun r => ?_
  have hle := units_strictMono.monotone (Nat.sub_le r 1)
  have hlt := units_lt_succ r
  rw [low_succ, low]
  omega

end Ranks

/-- The number lies between the midpoints on both sides of the magnitude of rank `r`, or on one of
them if the rank is even. -/
def Rounds (r : Nat) (x : ℚ) : Prop :=
  if r % 2 = 0 then low r ≤ 2 * (x * unitsOfOne) ∧ 2 * (x * unitsOfOne) ≤ low (r + 1)
  else low r < 2 * (x * unitsOfOne) ∧ 2 * (x * unitsOfOne) < low (r + 1)

section Rounds

variable {r r' num den : Nat} {x : ℚ}

/-- A number that rounds to a rank is not below the midpoint under it. -/
theorem Rounds.low_le (h : Rounds r x) : low r ≤ 2 * (x * unitsOfOne) := by
  unfold Rounds at h
  split at h
  · exact h.1
  · exact h.1.le

/-- A number that rounds to a rank is not above the midpoint over it. -/
theorem Rounds.le_high (h : Rounds r x) : 2 * (x * unitsOfOne) ≤ low (r + 1) := by
  unfold Rounds at h
  split at h
  · exact h.2
  · exact h.2.le

/-- A number between the midpoints, and on neither of them, rounds to the rank. -/
theorem rounds_of_lt (hlow : low r < 2 * (x * unitsOfOne)) (hhigh : 2 * (x * unitsOfOne) < low (r + 1)) :
    Rounds r x := by
  unfold Rounds
  split
  · exact ⟨hlow.le, hhigh.le⟩
  · exact ⟨hlow, hhigh⟩

/-- What lies between two numbers that round to a rank rounds to it. -/
theorem Rounds.of_le_of_le {a b : ℚ} (ha : Rounds r a) (hb : Rounds r b) (hax : a ≤ x)
    (hxb : x ≤ b) : Rounds r x := by
  have hone : (0 : ℚ) ≤ unitsOfOne := Nat.cast_nonneg _
  have hlow : 2 * (a * unitsOfOne) ≤ 2 * (x * unitsOfOne) :=
    mul_le_mul_of_nonneg_left (mul_le_mul_of_nonneg_right hax hone) zero_le_two
  have hhigh : 2 * (x * unitsOfOne) ≤ 2 * (b * unitsOfOne) :=
    mul_le_mul_of_nonneg_left (mul_le_mul_of_nonneg_right hxb hone) zero_le_two
  unfold Rounds at *
  split
  case isTrue heven =>
    rw [if_pos heven] at ha hb
    exact ⟨ha.1.trans hlow, hhigh.trans hb.2⟩
  case isFalse heven =>
    rw [if_neg heven] at ha hb
    exact ⟨ha.1.trans_le hlow, hhigh.trans_lt hb.2⟩

/-- Of the ranks that a number rounds to, none is greater than another: on a midpoint, only one of
the two is even. -/
theorem Rounds.le_of_rounds (h : Rounds r x) (h' : Rounds r' x) : r' ≤ r := by
  by_contra hlt
  push Not at hlt
  have hle : low (r + 1) ≤ low r' := low_strictMono.monotone hlt
  have hhigh := h.le_high
  have hlow := h'.low_le
  have hcast : (low (r + 1) : ℚ) ≤ low r' := Nat.cast_le.mpr hle
  -- Two intervals can only meet in a midpoint, which belongs to the even rank.
  have heq : low (r + 1) = low r' := by
    have : (low r' : ℚ) ≤ low (r + 1) := hlow.trans hhigh
    exact Nat.le_antisymm hle (Nat.cast_le.mp this)
  obtain rfl := low_strictMono.injective heq
  have hmid : 2 * (x * unitsOfOne) = (low (r + 1) : ℚ) := le_antisymm hhigh hlow
  unfold Rounds at h h'
  rw [hmid] at h h'
  split at h
  · split at h'
    · omega
    · exact lt_irrefl _ h'.1
  · exact lt_irrefl _ h.2

/-- **A number rounds to one rank only.**  Two neighbouring ranks share a midpoint, and only one of
them is even. -/
theorem Rounds.unique (h : Rounds r x) (h' : Rounds r' x) : r = r' :=
  Nat.le_antisymm (h'.le_of_rounds h) (h.le_of_rounds h')

/-- Rounding a quotient, without division. -/
theorem rounds_div_iff (hden : 0 < den) : Rounds r (num / den) ↔
    if r % 2 = 0 then
      low r * den ≤ 2 * (num * unitsOfOne) ∧ 2 * (num * unitsOfOne) ≤ low (r + 1) * den
    else low r * den < 2 * (num * unitsOfOne) ∧ 2 * (num * unitsOfOne) < low (r + 1) * den := by
  have hden' : (0 : ℚ) < den := Nat.cast_pos.mpr hden
  have hvalue : 2 * ((num : ℚ) / den * unitsOfOne) = (2 * (num * unitsOfOne)) / den := by ring
  rw [Rounds, hvalue]
  split
  · rw [le_div_iff₀ hden', div_le_iff₀ hden']
    norm_cast
  · rw [lt_div_iff₀ hden', div_lt_iff₀ hden']
    norm_cast

/-- A quotient is rounded to an integer that is at most a half away, and to an even one if it is a
half away. -/
theorem divideRounding_spec (hden : 0 < den) {d : Nat} (hd : divideRounding num den = d) :
    if d % 2 = 0 then 2 * (d * den) ≤ 2 * num + den ∧ 2 * num ≤ 2 * (d * den) + den
    else 2 * (d * den) < 2 * num + den ∧ 2 * num < 2 * (d * den) + den := by
  have hnum := Nat.div_add_mod' num den
  have hmod := Nat.mod_lt num hden
  rw [divideRounding] at hd
  generalize num / den = q at *
  generalize num % den = m at *
  have hsucc : (q + 1) * den = q * den + den := Nat.succ_mul q den
  split at hd
  · subst hd
    rw [hsucc]
    split <;> omega
  · subst hd
    split <;> omega

/-- **Rounding the significand rounds the number.** -/
theorem rounds_divideRounding {k : Nat} (hden : 0 < den)
    (hlt : num * unitsOfOne < 2 * hiddenBit * (den * 2 ^ k))
    (hge : k = 0 ∨ hiddenBit * (den * 2 ^ k) ≤ num * unitsOfOne) :
    Rounds (k * hiddenBit + divideRounding (num * unitsOfOne) (den * 2 ^ k)) (num / den) := by
  rw [rounds_div_iff hden]
  generalize num * unitsOfOne = scaled at *
  have hbit : hiddenBit = 4503599627370496 := rfl
  have hpos : 0 < den * 2 ^ k := Nat.mul_pos hden (Nat.pow_pos (by decide))
  have hunits (d : Nat) : d * 2 ^ k * den = d * (den * 2 ^ k) := by ring
  generalize den * 2 ^ k = unit at *
  generalize hd : divideRounding scaled unit = d
  have hspec := divideRounding_spec hpos hd
  have hnear : 2 * (d * unit) ≤ 2 * scaled + unit ∧ 2 * scaled ≤ 2 * (d * unit) + unit := by
    split at hspec
    · exact hspec
    · exact ⟨hspec.1.le, hspec.2.le⟩
  have hle : d ≤ 2 * hiddenBit := by
    have : 2 * d * unit < (4 * hiddenBit + 1) * unit := by linarith
    have := Nat.lt_of_mul_lt_mul_right this
    omega
  have hnormal : k = 0 ∨ hiddenBit ≤ d := by
    refine hge.imp_right fun hge => ?_
    have : 2 * hiddenBit * unit ≤ (2 * d + 1) * unit := by linarith
    have := Nat.le_of_mul_le_mul_right this hpos
    omega
  have hrank : units (k * hiddenBit + d) * den = d * unit := by
    rw [units_add hnormal hle, hunits]
  have hparity : (k * hiddenBit + d) % 2 = d % 2 := by
    rw [hbit]
    omega
  -- At a power of two the next lower neighbour is nearer, but the number is not below.
  have hlow : low (k * hiddenBit + d) * den + unit = 2 * (d * unit) ∨
      low (k * hiddenBit + d) * den ≤ 2 * scaled ∧ d % 2 = 0 := by
    by_cases hpred : d ≠ 0 ∧ (k = 0 ∨ hiddenBit ≤ d - 1)
    · obtain ⟨e, rfl⟩ := Nat.exists_eq_add_one_of_ne_zero hpred.1
      rw [Nat.add_sub_cancel] at hpred
      rw [← Nat.add_assoc, low_add hpred.2 (by omega), hunits]
      exact .inl (by ring)
    · have hmono := Nat.mul_le_mul_right den
        (units_strictMono.monotone (Nat.sub_le (k * hiddenBit + d) 1))
      have hlow : low (k * hiddenBit + d) * den ≤ 2 * (d * unit) := by
        rw [low, Nat.add_mul, hrank] at *
        omega
      refine .inr ⟨hlow.trans (Nat.mul_le_mul_left 2 ?_), by omega⟩
      by_cases hd : d = 0
      · rw [hd, Nat.zero_mul]
        exact Nat.zero_le _
      · obtain rfl : d = hiddenBit := by omega
        exact hge.resolve_left (by omega)
  have hhigh : low (k * hiddenBit + d + 1) * den = 2 * (d * unit) + unit ∨
      2 * scaled ≤ low (k * hiddenBit + d + 1) * den ∧ d % 2 = 0 := by
    rcases Nat.lt_or_ge d (2 * hiddenBit) with hlt' | hge'
    · rw [low_add hnormal hlt', hunits]
      exact .inl (by ring)
    · rw [low_succ, Nat.add_mul, hrank]
      obtain rfl : d = 2 * hiddenBit := Nat.le_antisymm hle hge'
      have hmono := Nat.mul_le_mul_right den (units_lt_succ (k * hiddenBit + 2 * hiddenBit)).le
      exact .inr ⟨by omega, by omega⟩
  rw [hparity]
  by_cases heven : d % 2 = 0
  · rw [if_pos heven] at hspec ⊢
    omega
  · rw [if_neg heven] at hspec ⊢
    omega

/-- The bit lengths give the exponent up to one, and the significand decides it. -/
theorem exists_round_eq (negative : Bool) (hnum : num ≠ 0) (hden : 0 < den) :
    ∃ k, round negative num den =
        ofRank negative (k * hiddenBit + divideRounding (num * unitsOfOne) (den * 2 ^ k)) ∧
      num * unitsOfOne < 2 * hiddenBit * (den * 2 ^ k) ∧
      (k = 0 ∨ hiddenBit * (den * 2 ^ k) ≤ num * unitsOfOne) := by
  have hzero : ¬(num = 0 ∨ den = 0) := by omega
  have hscaled : num * unitsOfOne ≠ 0 := Nat.mul_ne_zero hnum unitsOfOne_pos.ne'
  rw [round, if_neg hzero]
  generalize num * unitsOfOne = scaled at *
  dsimp only
  generalize hk : scaled.log2 - den.log2 - 53 = k
  have hbit : hiddenBit = 2 ^ 52 := rfl
  have hpos : 0 < den * 2 ^ k := Nat.mul_pos hden (Nat.pow_pos (by decide))
  have hdouble : den * 2 ^ (k + 1) = 2 * (den * 2 ^ k) := by ring
  have hscaledLow := Nat.log2_self_le hscaled
  have hscaledHigh : scaled < 2 ^ (scaled.log2 + 1) := Nat.lt_log2_self
  have hdenLow := Nat.log2_self_le hden.ne'
  have hdenHigh : den < 2 ^ (den.log2 + 1) := Nat.lt_log2_self
  have hunit : den * Nat.pow 2 k = den * 2 ^ k := rfl
  -- By the bit lengths alone, the quotient has 53 or 54 bits.
  have hquadruple : scaled < 4 * hiddenBit * (den * 2 ^ k) := by
    calc scaled < 2 ^ (scaled.log2 + 1) := hscaledHigh
      _ ≤ 2 ^ (54 + den.log2 + k) := Nat.pow_le_pow_right (by decide) (by omega)
      _ = 4 * hiddenBit * (2 ^ den.log2 * 2 ^ k) := by rw [hbit]; ring
      _ ≤ 4 * hiddenBit * (den * 2 ^ k) :=
        Nat.mul_le_mul_left _ (Nat.mul_le_mul_right _ hdenLow)
  split
  case isTrue hlt =>
    rw [hunit, Nat.div_lt_iff_lt_mul hpos] at hlt
    refine ⟨k, rfl, hlt, ?_⟩
    by_cases hk0 : k = 0
    · exact .inl hk0
    · refine .inr ?_
      calc hiddenBit * (den * 2 ^ k) ≤ hiddenBit * (2 ^ (den.log2 + 1) * 2 ^ k) :=
            Nat.mul_le_mul_left _ (Nat.mul_le_mul_right _ hdenHigh.le)
        _ = 2 ^ (53 + den.log2 + k) := by rw [hbit]; ring
        _ ≤ 2 ^ scaled.log2 := Nat.pow_le_pow_right (by decide) (by omega)
        _ ≤ scaled := hscaledLow
  case isFalse hge =>
    rw [hunit, Nat.div_lt_iff_lt_mul hpos] at hge
    refine ⟨k + 1, rfl, ?_, .inr ?_⟩
    · rw [hdouble]
      linarith
    · rw [hdouble]
      linarith

/-- **A positive quotient is rounded to the rank that it rounds to.** -/
theorem round_eq_ofRank {negative : Bool} (hnum : num ≠ 0) (hden : 0 < den)
    (h : Rounds r (num / den)) : round negative num den = ofRank negative r := by
  obtain ⟨k, hround, hlt, hge⟩ := exists_round_eq negative hnum hden
  rw [hround, (rounds_divideRounding hden hlt hge).unique h]

/-- A positive magnitude rounds to its own rank. -/
theorem rounds_units (hr : 0 < r) : Rounds r (units r / unitsOfOne) := by
  have hlow : units (r - 1) < units r := units_strictMono (Nat.sub_lt hr Nat.one_pos)
  have hhigh := units_lt_succ r
  have hlow' : low r * unitsOfOne < 2 * (units r * unitsOfOne) := by
    rw [← Nat.mul_assoc, low]
    exact Nat.mul_lt_mul_of_pos_right (by omega) unitsOfOne_pos
  have hhigh' : 2 * (units r * unitsOfOne) < low (r + 1) * unitsOfOne := by
    rw [← Nat.mul_assoc, low_succ]
    exact Nat.mul_lt_mul_of_pos_right (by omega) unitsOfOne_pos
  rw [rounds_div_iff unitsOfOne_pos]
  split
  · exact ⟨hlow'.le, hhigh'.le⟩
  · exact ⟨hlow', hhigh'⟩

/-- The midpoints around a magnitude, by its exponent and its significand. -/
theorem exists_low_eq (hr : 0 < r) :
    ∃ k d, units r = d * 2 ^ k ∧ low (r + 1) = 2 * units r + 2 ^ k ∧
      (low r + 2 ^ k = 2 * units r ∧ d < 2 * hiddenBit ∨
        2 * low r + 2 ^ k = 4 * units r ∧ d = hiddenBit) := by
  obtain ⟨k, d, rfl, hnormal, hd⟩ := exists_rank r
  have hunits := units_add hnormal hd.le
  refine ⟨k, d, hunits, ?_, ?_⟩
  · rw [low_add hnormal hd, hunits]
    ring
  · by_cases hpred : k = 0 ∨ hiddenBit + 1 ≤ d
    · have hne : d ≠ 0 := by
        rintro rfl
        rcases hnormal with rfl | hle
        · omega
        · exact absurd hle (by decide)
      obtain ⟨e, rfl⟩ := Nat.exists_eq_add_one_of_ne_zero hne
      rw [hunits, ← Nat.add_assoc, low_add (by omega) (by omega)]
      exact .inl ⟨by ring, hd⟩
    · -- The rank before a power of two has the next lower exponent.
      obtain ⟨k, rfl⟩ := Nat.exists_eq_add_one_of_ne_zero (n := k) (by omega)
      obtain rfl : d = hiddenBit := by omega
      have hrank : (k + 1) * hiddenBit + hiddenBit = k * hiddenBit + (2 * hiddenBit - 1) + 1 := by
        have hbit : hiddenBit = 4503599627370496 := rfl
        rw [hbit]
        omega
      have hsignificand : 2 * (2 * hiddenBit - 1) + 1 + 1 = 4 * hiddenBit := rfl
      rw [hunits, hrank, low_add (by omega) (by omega)]
      refine .inr ⟨?_, rfl⟩
      calc 2 * ((2 * (2 * hiddenBit - 1) + 1) * 2 ^ k) + 2 ^ (k + 1)
          = 2 * ((2 * (2 * hiddenBit - 1) + 1 + 1) * 2 ^ k) := by ring
        _ = 4 * (hiddenBit * 2 ^ (k + 1)) := by rw [hsignificand]; ring

/-- The midpoints of positive ranks are positive. -/
theorem low_pos (hr : 0 < r) : 0 < low r := by
  have := units_strictMono hr
  rw [low]
  omega

/-- Only positive numbers round to positive ranks. -/
theorem Rounds.pos (hr : 0 < r) (h : Rounds r x) : 0 < x := by
  have hlow : (0 : ℚ) < 2 * (x * unitsOfOne) :=
    (Nat.cast_pos.mpr (low_pos hr)).trans_le h.low_le
  have hone : (0 : ℚ) < unitsOfOne := Nat.cast_pos.mpr unitsOfOne_pos
  exact pos_of_mul_pos_left (pos_of_mul_pos_right hlow zero_le_two) hone.le

/-- **A decimal is read as the rank that it rounds to.**  It is not so small that its digits are
not looked at. -/
theorem ofDecimal_eq_ofRank {negative : Bool} {digits : Nat} {exponent : Int} (hr : 0 < r)
    (hexponent : exponent ≤ 400) (h : Rounds r (digits * 10 ^ exponent)) :
    ofDecimal negative digits exponent = ofRank negative r := by
  have hone : (1 : ℚ) ≤ low r := Nat.one_le_cast.mpr (low_pos hr)
  have hdigits : digits ≠ 0 := by
    rintro rfl
    have := h.pos hr
    rw [Nat.cast_zero, zero_mul] at this
    exact lt_irrefl _ this
  rw [ofDecimal, if_neg hdigits, if_neg (by omega)]
  rcases Int.eq_ofNat_of_zero_le (a := |exponent|) (abs_nonneg _) with ⟨m, hm⟩
  by_cases hsign : 0 ≤ exponent
  · rw [abs_of_nonneg hsign] at hm
    subst hm
    rw [if_neg (by omega), if_pos hsign, Int.toNat_natCast, Nat.pow_eq]
    refine round_eq_ofRank (Nat.mul_ne_zero hdigits (by positivity)) (by decide) ?_
    rw [zpow_natCast] at h
    simpa using h
  · obtain rfl : exponent = -m := by rw [← hm, abs_of_neg (by omega), neg_neg]
    have hvalue : (digits : ℚ) * 10 ^ (-(m : Int)) = digits / (10 ^ m : ℕ) := by
      rw [zpow_neg, zpow_natCast, Nat.cast_pow, div_eq_mul_inv]
      rfl
    have hpos : 0 < 10 ^ m := by positivity
    rw [hvalue] at h
    -- A number that rounds to a positive rank is not below half of the least magnitude.
    have hlarge : 10 ^ m ≤ 2 * (digits * unitsOfOne) := by
      have hscaled : 2 * ((digits : ℚ) / (10 ^ m : ℕ) * unitsOfOne) =
          (2 * (digits * unitsOfOne) : ℕ) / (10 ^ m : ℕ) := by
        push_cast
        ring
      have := hone.trans h.low_le
      rwa [hscaled, one_le_div (by exact_mod_cast hpos), Nat.cast_le] at this
    -- So the reader, which passes over numbers that are far smaller, looks at its digits.
    have hsmall : ¬(digits.log2 + 1 : Int) + 3 * -(m : Int) < -1100 := by
      intro hlt
      obtain ⟨k, hk⟩ : ∃ k, k = 1074 := ⟨_, rfl⟩
      have hlt : 2 * (digits * unitsOfOne) < 10 ^ m := by
        calc 2 * (digits * unitsOfOne) ≤ 2 * (2 ^ (digits.log2 + 1) * 2 ^ k) := by
              rw [unitsOfOne_eq hk]
              exact Nat.mul_le_mul_left _ (Nat.mul_le_mul_right _ Nat.lt_log2_self.le)
          _ = 2 ^ (digits.log2 + 1 + (k + 1)) := by ring
          _ < 2 ^ (3 * m) := Nat.pow_lt_pow_right (by decide) (by omega)
          _ = 8 ^ m := by rw [Nat.pow_mul]
          _ ≤ 10 ^ m := Nat.pow_le_pow_left (by decide) m
      omega
    rw [if_neg hsmall, if_neg hsign, neg_neg, Int.toNat_natCast, Nat.pow_eq]
    exact round_eq_ofRank hdigits hpos h

end Rounds

end Binary64
end Routing
