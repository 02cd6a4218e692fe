/-
# Whole numbers of the format

Every integer up to `2 ^ 53` is a number of the format (`exists_units_eq`), so no two of them round
to the same one, and such an integer has the same text as an integer and as a floating-point number
(`renderBinary64_ofInt`).

A floating-point number without fraction, of less than 63 bits, is written as an integer
(`exists_renderBinary64_eq`).  Only the negative zero is not written as any integer of 64 bits is.
-/

import Routing.Proofs.Decimal.Reading

namespace Routing

namespace Binary64

attribute [local irreducible] unitsOfOne

/-- A significand with an exponent is the magnitude of some rank. -/
theorem exists_units_eq {a : Nat} (h : a ≤ 2 * hiddenBit) (j : Nat) :
    ∃ r, units r = a * 2 ^ j ∧ r ≤ (j + 2) * hiddenBit := by
  induction j generalizing a with
  | zero =>
    have hunits := units_add (k := 0) (.inl rfl) h
    rw [Nat.zero_mul, Nat.zero_add] at hunits
    exact ⟨a, hunits, by omega⟩
  | succ j ih =>
    rcases Nat.le_total a hiddenBit with hle | hge
    · obtain ⟨r, hr, hbound⟩ := ih (a := 2 * a) (Nat.mul_le_mul_left 2 hle)
      refine ⟨r, ?_, hbound.trans (Nat.mul_le_mul_right _ (by omega))⟩
      rw [hr, Nat.pow_succ]
      ring
    · refine ⟨(j + 1) * hiddenBit + a, units_add (.inr hge) h, ?_⟩
      rw [Nat.add_mul (j + 1)]
      exact Nat.add_le_add_left h _

/-- An integer up to `2 ^ 53` is a number of the format. -/
theorem exists_units_eq_mul {a : Nat} (h : a ≤ 2 * hiddenBit) :
    ∃ r, units r = a * unitsOfOne ∧ r < finiteMagnitudes := by
  obtain ⟨k, hk⟩ : ∃ k, k = 1074 := ⟨_, rfl⟩
  obtain ⟨r, hr, hbound⟩ := exists_units_eq h k
  have hbit : hiddenBit = 4503599627370496 := rfl
  refine ⟨r, by rw [unitsOfOne_eq hk, hr], ?_⟩
  rw [finiteMagnitudes]
  rw [hk, hbit] at hbound
  omega

/-- An integer rounds to the rank of which it is the magnitude. -/
theorem rounds_of_units_eq {a r : Nat} (ha : 0 < a) (h : units r = a * unitsOfOne) :
    0 < r ∧ Rounds r a := by
  have hone : (unitsOfOne : ℚ) ≠ 0 := Nat.cast_ne_zero.mpr unitsOfOne_pos.ne'
  have hr : 0 < r := by
    refine Nat.pos_of_ne_zero ?_
    rintro rfl
    exact absurd h.symm (Nat.mul_ne_zero ha.ne' unitsOfOne_pos.ne')
  have hrounds := rounds_units hr
  rw [h, Nat.cast_mul, mul_div_cancel_right₀ _ hone] at hrounds
  exact ⟨hr, hrounds⟩

/-- Below `2 ^ 53` no other integer rounds to the rank of an integer. -/
theorem eq_of_rounds {a m r : Nat} (ha : 0 < a) (hlt : a < 2 * hiddenBit)
    (h : units r = a * unitsOfOne) (hm : Rounds r m) : m = a := by
  obtain ⟨hr, hself⟩ := rounds_of_units_eq ha h
  -- The next integer on that side would round to the rank as well, but it has one of its own.
  have hother {b : Nat} (hb : b ≤ 2 * hiddenBit) (hpos : 0 < b) (hrounds : Rounds r b) : b = a := by
    obtain ⟨s, hs, -⟩ := exists_units_eq_mul hb
    obtain rfl := hrounds.unique (rounds_of_units_eq hpos hs).2
    exact Nat.eq_of_mul_eq_mul_right unitsOfOne_pos (hs.symm.trans h)
  rcases Nat.lt_trichotomy m a with hma | rfl | ham
  · have hmpos : 0 < m := Nat.cast_pos.mp (hm.pos hr)
    have hbetween : Rounds r (a - 1 : ℕ) :=
      hm.of_le_of_le hself (Nat.cast_le.mpr (by omega)) (Nat.cast_le.mpr (by omega))
    have := hother (by omega) (by omega) hbetween
    omega
  · rfl
  · have hbetween : Rounds r (a + 1 : ℕ) :=
      hself.of_le_of_le hm (Nat.cast_le.mpr (by omega)) (Nat.cast_le.mpr (by omega))
    have := hother (by omega) (by omega) hbetween
    omega

/-- An integer below `2 ^ 53` is kept. -/
theorem exists_round_eq_finite {a : Nat} (negative : Bool) (ha : 0 < a) (hlt : a < 2 * hiddenBit) :
    ∃ r : Fin finiteMagnitudes, units r = a * unitsOfOne ∧
      Binary64.round negative a 1 = .finite negative r := by
  obtain ⟨r, hr, hfinite⟩ := exists_units_eq_mul hlt.le
  have hrounds : Rounds r ((a : ℚ) / (1 : ℕ)) := by
    rw [Nat.cast_one, div_one]
    exact (rounds_of_units_eq ha hr).2
  exact ⟨⟨r, hfinite⟩, hr,
    (round_eq_ofRank ha.ne' Nat.one_pos hrounds).trans (dif_pos hfinite)⟩

end Binary64

namespace Number

open Text Binary64

attribute [local irreducible] unitsOfOne

/-- **A floating-point number without fraction is written as an integer.** -/
theorem exists_renderBinary64_eq (negative : Bool) {r : Fin finiteMagnitudes}
    (h : units r % unitsOfOne = 0) :
    ∃ m, renderBinary64 (.finite negative r) = (if negative then ['-'] else []) ++ decimal m ∧
      (r.val = 0 ∧ m = 0 ∨ 0 < r.val ∧ 0 < m ∧ Rounds r m) := by
  obtain ⟨r, hfinite⟩ := r
  rcases Nat.eq_zero_or_pos r with rfl | hpos
  · have hzero : (Decimal.shortest .up 0).positional = decimal 0 := List.append_nil _
    exact ⟨0, by rw [renderBinary64, hzero], .inl ⟨rfl, rfl⟩⟩
  · have hdigits := Decimal.digits_shortest_ne_zero .up hpos hfinite
    have hexponent := Decimal.exponent_shortest_nonneg .up hfinite h
    have hrounds := Decimal.rounds_shortest .up hpos hfinite
    have hvalue : (Decimal.shortest .up r).value =
        ((Decimal.shortest .up r).digits * 10 ^ (Decimal.shortest .up r).exponent.toNat : ℕ) := by
      rw [Decimal.value, Nat.cast_mul, Nat.cast_pow, ← zpow_natCast, Int.toNat_of_nonneg hexponent]
      rfl
    rw [hvalue] at hrounds
    refine ⟨_, by rw [renderBinary64, Decimal.positional_of_nonneg hdigits hexponent],
      .inr ⟨hpos, Nat.cast_pos.mp (hrounds.pos hpos), hrounds⟩⟩

/-- **An integer below `2 ^ 53` has the same text as a floating-point number.**  From there on, not
every integer is a floating-point number. -/
theorem renderBinary64_ofInt {n : Int64} (h : n.toInt.natAbs < 2 ^ 53) :
    renderBinary64 (Binary64.ofInt n.toInt) = renderInt64 n := by
  have hsign (m : Nat) (hm : m = n.toInt.natAbs) :
      (if decide (n.toInt < 0) then ['-'] else []) ++ decimal m = renderInt64 n := by
    rw [renderInt64, decimalInt, hm]
    split <;> simp_all
  rw [Binary64.ofInt]
  rcases Nat.eq_zero_or_pos n.toInt.natAbs with hzero | hpos
  · obtain ⟨m, hm, hcases⟩ := exists_renderBinary64_eq (decide (n.toInt < 0))
      (r := ⟨0, by decide⟩) (Nat.zero_mod _)
    rw [hzero, Binary64.round, if_pos (.inl rfl), zero, hm]
    refine hsign m ?_
    rcases hcases with ⟨-, rfl⟩ | ⟨hlt, -⟩
    · exact hzero.symm
    · exact absurd hlt (by decide)
  · obtain ⟨r, hr, hround⟩ := exists_round_eq_finite (decide (n.toInt < 0)) hpos h
    rw [hround]
    obtain ⟨m, hm, hcases⟩ := exists_renderBinary64_eq (decide (n.toInt < 0)) (r := r)
      (by rw [hr, Nat.mul_mod_left])
    rw [hm]
    refine hsign m ?_
    rcases hcases with ⟨hzero, -⟩ | ⟨-, -, hrounds⟩
    · have := (rounds_of_units_eq hpos hr).1
      omega
    · exact eq_of_rounds hpos h hr hrounds

/-- What rounds to a number below a power of two is below it. -/
theorem lt_of_rounds {m r e : Nat} (hr : units r < unitsOfOne * Nat.pow 2 e) (h : Rounds r m) :
    m < 2 ^ e := by
  obtain ⟨k, hk⟩ : ∃ k, k = 1074 := ⟨_, rfl⟩
  obtain ⟨R, hR, -⟩ := exists_units_eq (a := 1) (by decide) (k + e)
  rw [Nat.one_mul, Nat.pow_add, ← unitsOfOne_eq hk] at hR
  rw [Nat.pow_eq, ← hR] at hr
  have hsucc : units (r + 1) ≤ units R := units_strictMono.monotone (units_strictMono.lt_iff_lt.mp hr)
  have hhigh : 2 * (m * unitsOfOne) ≤ low (r + 1) := by
    have := h.le_high
    exact_mod_cast this
  rw [low_succ] at hhigh
  have hlt : m * unitsOfOne < 2 ^ e * unitsOfOne := by
    rw [Nat.mul_comm (2 ^ e), ← hR]
    omega
  exact Nat.lt_of_mul_lt_mul_right hlt

/-- An integer in range is kept by 64 bits. -/
theorem toInt_ofInt {n : Int} (h : n.natAbs < 2 ^ 63) : (Int64.ofInt n).toInt = n :=
  Int64.toInt_ofInt_of_le (by omega) (by omega)

/-- **What a parameter for integers may hold of the floating-point numbers** is NaN, the negative
zero, or a number that is written as an integer of 64 bits. -/
theorem exists_renderInt64_eq {x : Binary64} (h : Decoder.isIntegral x) :
    x = .nan ∨ x = Binary64.zero true ∨ ∃ n : Int64, renderBinary64 x = renderInt64 n := by
  cases x with
  | nan => exact .inl rfl
  | infinite negative => exact absurd h (by cases negative <;> decide)
  | finite negative r =>
    simp only [Decoder.isIntegral, isNan, isInteger, isBelow, Bool.false_or, Bool.and_eq_true,
      beq_iff_eq, decide_eq_true_eq] at h
    obtain ⟨hinteger, hbelow⟩ := h
    obtain ⟨m, hm, hcases⟩ := exists_renderBinary64_eq negative hinteger
    have hlt : m < 2 ^ 63 := by
      rcases hcases with ⟨-, rfl⟩ | ⟨-, -, hrounds⟩
      · exact Nat.pow_pos (by decide)
      · exact lt_of_rounds hbelow hrounds
    cases negative with
    | false =>
      have hsign : ¬(m : Int) < 0 := by omega
      refine .inr (.inr ⟨Int64.ofInt m, ?_⟩)
      rw [hm, renderInt64, toInt_ofInt (by omega), decimalInt, if_neg hsign]
      rfl
    | true =>
      rcases hcases with ⟨hzero, -⟩ | ⟨-, hpos, -⟩
      · exact .inr (.inl (congrArg _ (Fin.ext hzero)))
      · have hsign : -(m : Int) < 0 := by omega
        refine .inr (.inr ⟨Int64.ofInt (-m), ?_⟩)
        rw [hm, renderInt64, toInt_ofInt (by omega), decimalInt, if_pos hsign, Int.natAbs_neg]
        rfl

/-- The negative zero is written with its sign. -/
theorem renderBinary64_negativeZero : renderBinary64 (Binary64.zero true) = "-0".toList := by
  decide +kernel

/-- No integer is written as the negative zero is. -/
theorem renderInt64_ne_negativeZero (n : Int64) :
    renderInt64 n ≠ renderBinary64 (Binary64.zero true) := by
  rw [renderBinary64_negativeZero]
  intro heq
  have hzero : int64? "-0".toList = some 0 := rfl
  have hn := int64?_renderInt64 n
  rw [heq, hzero] at hn
  obtain rfl := Option.some.inj hn
  exact absurd heq (by decide +kernel)

end Number
end Routing
