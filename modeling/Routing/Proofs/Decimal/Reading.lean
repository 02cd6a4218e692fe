/-
# Reading numbers back

A floating-point number is written as its shortest decimal, and what is written is read as that
number (`binary64?_renderBinary64`).  An integer that is read as a floating-point number is read as
the nearest one (`binary64?_renderInt64`).

The reader takes apart what the writer has put together: sign, digits, point and exponent.  Digits
on both sides of the point make one number, with the exponent lowered by the digits behind it, so
whichever form the writer has chosen, the same decimal is read; and the shortest decimal rounds
back to the number (`Decimal.rounds_shortest`).
-/

import Mathlib.Data.Bool.AllAny
import Routing.Decoder
import Routing.Proofs.Decimal.Integer
import Routing.Proofs.Decimal.Shortest
import Routing.Proofs.Text.Splitting

namespace Routing

/-- A decimal without fraction is written as an integer. -/
theorem Decimal.positional_of_nonneg {d : Decimal} (hd : d.digits ≠ 0) (h : 0 ≤ d.exponent) :
    d.positional = Text.decimal (d.digits * 10 ^ d.exponent.toNat) := by
  rw [positional, if_pos h, Text.decimal_mul_pow hd]
  rfl

namespace Number

open Text Binary64

variable {negative : Bool}

/-- The digits of numbers are those of texts. -/
theorem isDigit_iff {c : Char} : isDigit c ↔ IsDigit c := by simp [isDigit, IsDigit]

/-- Digits are taken up to what is none. -/
theorem takeWhile_isDigit {s : Text} (hs : ∀ c ∈ s, IsDigit c) (rest : Text)
    (hrest : ∀ c ∈ rest.head?, ¬IsDigit c) : (s ++ rest).takeWhile isDigit = s := by
  rw [List.takeWhile_append_of_pos fun c hc => isDigit_iff.mpr (hs c hc)]
  refine List.append_right_eq_self.mpr ?_
  cases rest with
  | nil => rfl
  | cons c rest => exact List.takeWhile_cons_of_neg (mt isDigit_iff.mp (hrest c rfl))

/-- Digits without a point. -/
theorem magnitude?_digits {s : Text} {n : Nat} (hs : ∀ c ∈ s, IsDigit c) (hne : s ≠ [])
    (hn : digitsValue? s = some n) : magnitude? negative s = some (ofDecimal negative n 0) := by
  have hwhole : s.takeWhile isDigit = s := by
    simpa using takeWhile_isDigit hs [] (by simp)
  simp [magnitude?, hwhole, hne, hn, exponent?]

/-- Digits around a point. -/
theorem magnitude?_point (negative : Bool) {s t : Text} {n : Nat} (hs : ∀ c ∈ s, IsDigit c)
    (ht : ∀ c ∈ t, IsDigit c) (hne : s ≠ []) (hn : digitsValue? (s ++ t) = some n) :
    magnitude? negative (s ++ '.' :: t) = some (ofDecimal negative n (-(t.length : Int))) := by
  have hwhole : (s ++ '.' :: t).takeWhile isDigit = s :=
    takeWhile_isDigit hs ('.' :: t) (by rintro _ ⟨⟩; decide)
  have hplaces : t.takeWhile isDigit = t := by
    simpa using takeWhile_isDigit ht [] (by simp)
  have hbehind : t.dropWhile isDigit = [] := by
    have hsplit := List.takeWhile_append_dropWhile (p := isDigit) (l := t)
    rw [hplaces] at hsplit
    exact List.append_right_eq_self.mp hsplit
  simp [magnitude?, hwhole, hplaces, hbehind, hne, hn, exponent?]

/-- **A decimal without exponent is read by its value.** -/
theorem exists_magnitude?_positional (negative : Bool) {d : Decimal} (hd : d.digits ≠ 0) :
    ∃ n e, magnitude? negative d.positional = some (ofDecimal negative n e) ∧
      (n : ℚ) * 10 ^ e = d.value ∧ e ≤ 0 := by
  -- With a point, the digits behind it are counted by the exponent.
  by_cases hsign : 0 ≤ d.exponent
  · refine ⟨d.digits * 10 ^ d.exponent.toNat, 0, ?_, ?_, le_rfl⟩
    · rw [Decimal.positional_of_nonneg hd hsign]
      exact magnitude?_digits (fun c => isDigit_of_mem_decimal) (decimal_ne_nil _)
        (digitsValue?_decimal _)
    · rw [Decimal.value, zpow_zero, mul_one, Nat.cast_mul, Nat.cast_pow, ← zpow_natCast,
        Int.toNat_of_nonneg hsign]
      rfl
  · have hdigits : ∀ c ∈ decimal d.digits, IsDigit c := fun c => isDigit_of_mem_decimal
    have hvalue (places : Nat) (h : places = (-d.exponent).toNat) :
        (d.digits : ℚ) * 10 ^ (-(places : Int)) = d.value := by
      rw [Decimal.value, show -(places : Int) = d.exponent by omega]
    rw [Decimal.positional, if_neg hsign, Decimal.text]
    dsimp only
    generalize hplaces : (-d.exponent).toNat = places at *
    split
    -- The point stands within the digits.
    case isTrue hlt =>
      have hsplit := List.take_append_drop ((decimal d.digits).length - places) (decimal d.digits)
      have hlength : ((decimal d.digits).drop ((decimal d.digits).length - places)).length =
          places := by
        rw [List.length_drop]
        omega
      have hread := magnitude?_point negative
        (fun c hc => hdigits c (List.mem_of_mem_take hc))
        (fun c hc => hdigits c (List.mem_of_mem_drop hc))
        (List.ne_nil_of_length_pos (by rw [List.length_take]; omega))
        (hsplit.symm ▸ digitsValue?_decimal d.digits)
      rw [hlength] at hread
      exact ⟨d.digits, -places, hread, hvalue places rfl, by omega⟩
    -- The point stands before the digits and the zeros that fill them up.
    case isFalse hge =>
      have hlength : (List.replicate (places - (decimal d.digits).length) '0' ++
          decimal d.digits).length = places := by
        rw [List.length_append, List.length_replicate]
        omega
      have hread := magnitude?_point negative (s := ['0'])
        (t := List.replicate (places - (decimal d.digits).length) '0' ++ decimal d.digits)
        (n := d.digits) (List.forall_mem_singleton.mpr (by decide))
        (fun c hc => by
          rcases List.mem_append.mp hc with hc | hc
          · rw [List.eq_of_mem_replicate hc]
            decide
          · exact hdigits c hc)
        (by decide)
        ((digitsValue?_replicate_zero_append 1 _).trans
          ((digitsValue?_replicate_zero_append _ _).trans (digitsValue?_decimal _)))
      rw [hlength] at hread
      have hpoint : "0.".toList = ['0', '.'] := by decide
      rw [hpoint, List.append_assoc]
      exact ⟨d.digits, -places, hread, hvalue places rfl, by omega⟩

/-- A decimal begins with a digit. -/
theorem exists_positional_eq_cons (d : Decimal) :
    ∃ c s, d.positional = c :: s ∧ IsDigit c := by
  obtain ⟨c, s, hcons⟩ := List.exists_cons_of_ne_nil (decimal_ne_nil d.digits)
  have hc : IsDigit c := isDigit_of_mem_decimal (hcons ▸ List.mem_cons_self)
  rw [Decimal.positional, Decimal.text, hcons]
  dsimp only
  split
  case isTrue => exact ⟨c, _, rfl, hc⟩
  case isFalse =>
    split
    case isTrue hlt =>
      obtain ⟨k, hk⟩ : ∃ k, (c :: s).length - (-d.exponent).toNat = k + 1 :=
        Nat.exists_eq_add_one_of_ne_zero (by omega)
      rw [hk, List.take_succ_cons]
      exact ⟨c, _, rfl, hc⟩
    case isFalse =>
      have hpoint : "0.".toList = ['0', '.'] := by decide
      rw [hpoint]
      exact ⟨'0', _, rfl, by decide⟩

/-- A digit is that of its value. -/
theorem eq_digit_of_isDigit {c : Char} (h : IsDigit c) : c = digit (c.toNat - 48) ∧ c.toNat - 48 < 10 := by
  obtain ⟨hlow, hhigh⟩ := h
  rw [Char.le_def, UInt32.le_iff_toNat_le] at hlow hhigh
  have hlow : 48 ≤ c.toNat := hlow
  have hhigh : c.toNat ≤ 57 := hhigh
  refine ⟨?_, by omega⟩
  rw [digit, Nat.add_sub_cancel' hlow, Char.ofNat_toNat]

/-- What begins with a digit is no word for an infinity or NaN. -/
theorem binary64?_sign_append {c : Char} {s : Text} (hc : IsDigit c) :
    binary64? ((if negative then ['-'] else []) ++ c :: s) = magnitude? negative (c :: s) := by
  have hsign : sign ((if negative then ['-'] else []) ++ c :: s) = (negative, c :: s) := by
    cases negative with
    | true => rfl
    | false =>
      show sign (c :: s) = _
      unfold sign
      split
      case h_1 heq => exact absurd ((List.cons.inj heq).1 ▸ hc) (by decide)
      case h_2 heq => exact absurd ((List.cons.inj heq).1 ▸ hc) (by decide)
      case h_3 => rfl
  -- The words begin with one of two letters, and a digit is neither.
  have hlower : c.toLower ≠ 'i' ∧ c.toLower ≠ 'n' := by
    have hdigits : ∀ n < 10, (digit n).toLower ≠ 'i' ∧ (digit n).toLower ≠ 'n' := by decide
    obtain ⟨heq, hlt⟩ := eq_digit_of_isDigit hc
    exact heq ▸ hdigits _ hlt
  have hword {word : String} (h : word.toList.head?.any fun d => d = 'i' ∨ d = 'n') :
      (String.ofList ((c :: s).map Char.toLower) == word) = false := by
    rw [beq_eq_false_iff_ne]
    rintro rfl
    rw [String.toList_ofList] at h
    rcases of_decide_eq_true h with heq | heq
    · exact hlower.1 heq
    · exact hlower.2 heq
  rw [binary64?, hsign]
  dsimp only
  rw [hword (by decide), hword (by decide), hword (by decide)]
  rfl

/-- **A written floating-point number is read as it was.** -/
theorem binary64?_renderBinary64 (x : Binary64) : binary64? (renderBinary64 x) = some x := by
  cases x with
  | nan => decide
  | infinite negative => cases negative <;> decide
  | finite negative r =>
    obtain ⟨c, s, hcons, hc⟩ := exists_positional_eq_cons (Decimal.shortest .up r)
    rw [renderBinary64, hcons, binary64?_sign_append hc, ← hcons]
    obtain ⟨r, hr⟩ := r
    rcases Nat.eq_zero_or_pos r with rfl | hpos
    · have hzero : (Decimal.shortest .up 0).positional = ['0'] :=
        (List.append_nil _).trans (decimal_of_lt (by decide))
      rw [hzero]
      exact magnitude?_digits (n := 0) (List.forall_mem_singleton.mpr (by decide)) (by decide) rfl
    · have hrounds := Decimal.rounds_shortest .up hpos hr
      obtain ⟨n, e, hread, hvalue, he⟩ := exists_magnitude?_positional negative
        (Decimal.digits_shortest_ne_zero .up hpos hr)
      rw [hread, ofDecimal_eq_ofRank hpos (by omega) (hvalue ▸ hrounds), ofRank, dif_pos hr]

/-- A decimal consists of digits and a point. -/
theorem isDigit_of_mem_positional {d : Decimal} {c : Char} (h : c ∈ d.positional) :
    IsDigit c ∨ c = '.' := by
  have hdigits (h : c ∈ decimal d.digits) : IsDigit c := isDigit_of_mem_decimal h
  have hzeros {k : Nat} (h : c ∈ List.replicate k '0') : IsDigit c := by
    rw [List.eq_of_mem_replicate h]
    decide
  rw [Decimal.positional, Decimal.text] at h
  dsimp only at h
  split at h
  · exact .inl ((List.mem_append.mp h).elim hdigits hzeros)
  · split at h
    · rcases List.mem_append.mp h with h | h
      · exact .inl (hdigits (List.mem_of_mem_take h))
      · rcases List.mem_cons.mp h with h | h
        · exact .inr h
        · exact .inl (hdigits (List.mem_of_mem_drop h))
    · rcases List.mem_append.mp h with h | h
      · have hpoint : ∀ c ∈ "0.".toList, IsDigit c ∨ c = '.' :=
          List.all_iff_forall_prop.mp (by decide)
        rcases List.mem_append.mp h with h | h
        · exact hpoint c h
        · exact .inl (hzeros h)
      · exact .inl (hdigits h)

/-- A number is written without blanks. -/
theorem isBlank_of_mem_renderBinary64 {x : Binary64} {c : Char} (h : c ∈ renderBinary64 x) :
    isBlank c = false := by
  cases x with
  | nan =>
    have hword : ∀ c ∈ "NaN".toList, isBlank c = false := List.all_iff_forall_prop.mp (by decide)
    exact hword c h
  | infinite negative =>
    have hword : ∀ c ∈ renderBinary64 (.infinite negative), isBlank c = false :=
      List.all_iff_forall_prop.mp (by cases negative <;> decide)
    exact hword c h
  | finite negative r =>
    rcases List.mem_append.mp h with h | h
    · split at h
      · exact List.mem_singleton.mp h ▸ (by decide)
      · cases h
    · rcases isDigit_of_mem_positional h with h | rfl
      · exact isBlank_of_isDigit h
      · decide

/-- A written floating-point number does not consist of points. -/
theorem exists_ne_point_of_renderBinary64 (x : Binary64) : ∃ c ∈ renderBinary64 x, c ≠ '.' := by
  cases x with
  | nan => exact ⟨'N', by decide, by decide⟩
  | infinite negative => exact ⟨'I', by cases negative <;> decide, by decide⟩
  | finite negative r =>
    obtain ⟨c, s, hcons, hc⟩ := exists_positional_eq_cons (Decimal.shortest .up r)
    refine ⟨c, ?_, ?_⟩
    · rw [renderBinary64, hcons]
      exact List.mem_append_right _ List.mem_cons_self
    · rintro rfl
      exact absurd hc (by decide)

/-- A number is written as something. -/
theorem renderBinary64_ne_nil (x : Binary64) : renderBinary64 x ≠ [] := by
  obtain ⟨c, hc, -⟩ := exists_ne_point_of_renderBinary64 x
  exact List.ne_nil_of_mem hc

/-- Without an exponent, digits stand for an integer. -/
theorem ofDecimal_zero (n : Nat) : ofDecimal negative n 0 = Binary64.round negative n 1 := by
  rw [ofDecimal]
  by_cases hn : n = 0
  · rw [if_pos hn, Binary64.round, if_pos (.inl hn)]
  · rw [if_neg hn, if_neg (by decide), if_neg (by omega), if_pos le_rfl]
    simp

/-- An integer is read as the number nearest to it. -/
theorem binary64?_renderInt64 (n : Int64) :
    binary64? (renderInt64 n) = some (Binary64.ofInt n.toInt) := by
  have hdigits : ∀ c ∈ decimal n.toInt.natAbs, IsDigit c := fun c => isDigit_of_mem_decimal
  obtain ⟨c, s, hcons⟩ := List.exists_cons_of_ne_nil (decimal_ne_nil n.toInt.natAbs)
  have hrender : renderInt64 n =
      (if decide (n.toInt < 0) then ['-'] else []) ++ decimal n.toInt.natAbs := by
    rw [renderInt64, decimalInt]
    split <;> simp_all
  rw [hrender, hcons, binary64?_sign_append (hdigits c (hcons ▸ List.mem_cons_self)), ← hcons,
    magnitude?_digits hdigits (decimal_ne_nil _) (digitsValue?_decimal _), ofDecimal_zero]
  rfl

end Number

namespace Decoder

/-- A text that is a number, with no blank in it, is decoded as that number. -/
theorem decodeFloat_of_binary64? {s : Text} {x : Binary64} (hblank : ∀ c ∈ s, Text.isBlank c = false)
    (hne : s ≠ []) (h : Number.binary64? s = some x) : decodeFloat s = .float x := by
  simp only [decodeFloat, Text.trim, Text.trimBy_eq_self hblank, List.isEmpty_iff, hne, if_false, h,
    Option.getD_some]

/-- A written floating-point number is decoded as it was. -/
theorem decodeFloat_renderBinary64 (x : Binary64) :
    decodeFloat (Number.renderBinary64 x) = .float x :=
  decodeFloat_of_binary64? (fun _ => Number.isBlank_of_mem_renderBinary64)
    (Number.renderBinary64_ne_nil x) (Number.binary64?_renderBinary64 x)

/-- A written integer is decoded as the floating-point number nearest to it. -/
theorem decodeFloat_renderInt64 (n : Int64) :
    decodeFloat (Number.renderInt64 n) = .float (Binary64.ofInt n.toInt) :=
  decodeFloat_of_binary64? (fun _ => Number.isBlank_of_mem_renderInt64)
    (Number.decimalInt_ne_nil _) (Number.binary64?_renderInt64 n)

end Decoder
end Routing
