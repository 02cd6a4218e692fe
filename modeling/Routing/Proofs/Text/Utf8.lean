/-
# Octets of text read back

Reading the octets of a text gives its characters, one after the other and none of them
malformed (`read_encode`), so both ways to decode restore the text.

The reader decides by the first octet how many belong to a character, and checks the others.  So
there is one case for each length, in `read_utf8EncodeChar` as in the reader; the bounds that rule
out overlong sequences and surrogates are those of the second octet (`isSecond_three`,
`isSecond_four`).  The lemmas about points go the other way: what is read as a point was its one
octet.
-/

import Routing.Text.Utf8

namespace Routing
namespace Utf8

/-- A number below 256 is kept by an octet. -/
theorem toNat_ofNat_of_lt {n : Nat} (h : n < 256) : (UInt8.ofNat n).toNat = n := by
  rw [UInt8.toNat_ofNat', Nat.mod_eq_of_lt h]

/-- An octet that continues a sequence carries its payload. -/
theorem payload_ofNat (n : Nat) : payload (UInt8.ofNat (n % 64 + 128)) = n % 64 := by
  rw [payload, toNat_ofNat_of_lt (by omega)]
  omega

/-- The octets that a character is continued with are recognized. -/
theorem isTail_ofNat (n : Nat) : isTail (UInt8.ofNat (n % 64 + 128)) := by
  have h := toNat_ofNat_of_lt (n := n % 64 + 128) (by omega)
  simp only [isTail, UInt8.le_iff_toNat_le, h, Bool.and_eq_true, decide_eq_true_eq]
  exact ⟨by simp, by simp; omega⟩

/-- The second octet of a character of three octets. -/
theorem isSecond_three {v : Nat} (hlow : 0x7ff < v) (hhigh : v ≤ 0xffff)
    (hvalid : v < 0xd800 ∨ 0xdfff < v) :
    isSecond (UInt8.ofNat (v / 4096 % 16 + 224)) (UInt8.ofNat (v / 64 % 64 + 128)) := by
  have ha := toNat_ofNat_of_lt (n := v / 4096 % 16 + 224) (by omega)
  have hb := toNat_ofNat_of_lt (n := v / 64 % 64 + 128) (by omega)
  simp only [isSecond, isTail, ← UInt8.toNat_inj, UInt8.le_iff_toNat_le, ha, hb,
    UInt8.reduceToNat]
  grind

/-- The second octet of a character of four octets. -/
theorem isSecond_four {v : Nat} (hlow : 0xffff < v) (hhigh : v < 0x110000) :
    isSecond (UInt8.ofNat (v / 262144 % 8 + 240)) (UInt8.ofNat (v / 4096 % 64 + 128)) := by
  have ha := toNat_ofNat_of_lt (n := v / 262144 % 8 + 240) (by omega)
  have hb := toNat_ofNat_of_lt (n := v / 4096 % 64 + 128) (by omega)
  simp only [isSecond, isTail, ← UInt8.toNat_inj, UInt8.le_iff_toNat_le, ha, hb,
    UInt8.reduceToNat]
  grind

/-- **The octets of a character are read as that character.** -/
theorem read_utf8EncodeChar (c : Char) (s : List UInt8) :
    read (String.utf8EncodeChar c ++ s) = some c :: read s := by
  have hvalid : c.toNat < 0xd800 ∨ (0xdfff < c.toNat ∧ c.toNat < 0x110000) := c.valid
  have hc : Char.ofNat c.toNat = c := Char.ofNat_toNat c
  simp only [String.utf8EncodeChar, show c.val.toNat = c.toNat from rfl]
  generalize c.toNat = v at *
  -- One case for each number of octets.
  split
  case isTrue h =>
    have ha := toNat_ofNat_of_lt (n := v) (by omega)
    simp only [List.cons_append, List.nil_append]
    rw [read.eq_def]
    simp only
    rw [if_pos (by rw [UInt8.lt_iff_toNat_lt, ha]; simp; omega), ha, hc]
  case isFalse h1 =>
    split
    case isTrue h2 =>
      have ha := toNat_ofNat_of_lt (n := v / 64 % 32 + 192) (by omega)
      simp only [List.cons_append, List.nil_append]
      rw [read, if_neg (by rw [UInt8.lt_iff_toNat_lt, ha]; simp),
        if_pos (by simp only [UInt8.le_iff_toNat_le, ha]; simp; omega)]
      simp only [isTail_ofNat, payload_ofNat, ha, if_true]
      rw [← hc]
      congr 3
      omega
    case isFalse h2 =>
      split
      case isTrue h3 =>
        have ha := toNat_ofNat_of_lt (n := v / 4096 % 16 + 224) (by omega)
        simp only [List.cons_append, List.nil_append]
        rw [read, if_neg (by rw [UInt8.lt_iff_toNat_lt, ha]; simp),
          if_neg (by simp only [UInt8.le_iff_toNat_le, ha]; simp),
          if_pos (by simp only [UInt8.le_iff_toNat_le, ha]; simp; omega)]
        simp only [isSecond_three (v := v) (by omega) h3 (by omega), isTail_ofNat, payload_ofNat,
          ha, if_true]
        rw [← hc]
        congr 3
        omega
      case isFalse h3 =>
        have ha := toNat_ofNat_of_lt (n := v / 262144 % 8 + 240) (by omega)
        simp only [List.cons_append, List.nil_append]
        rw [read, if_neg (by rw [UInt8.lt_iff_toNat_lt, ha]; simp),
          if_neg (by simp only [UInt8.le_iff_toNat_le, ha]; simp),
          if_neg (by simp only [UInt8.le_iff_toNat_le, ha]; simp),
          if_pos (by simp only [UInt8.le_iff_toNat_le, ha]; simp; omega)]
        simp only [isSecond_four (v := v) (by omega) (by omega), isTail_ofNat, payload_ofNat,
          ha, if_true]
        rw [← hc]
        congr 3
        omega

/-- **The octets of a text are read as its characters.** -/
theorem read_encode (s : Text) : read (encode s) = s.map some := by
  induction s with
  | nil => rfl
  | cons c s ih =>
    rw [encode, List.flatMap_cons, read_utf8EncodeChar, ← encode, ih, List.map_cons]

/-- **The strict way to decode restores a text**: nothing in it is malformed. -/
theorem decode?_encode (s : Text) : decode? (encode s) = some s := by
  rw [decode?, read_encode]
  induction s with
  | nil => rfl
  | cons c s ih => simp [List.map_cons, List.mapM_cons, ih]

/-- The lenient way to decode restores a text too. -/
theorem decodeLossy_encode (s : Text) : decodeLossy (encode s) = s := by
  rw [decodeLossy, read_encode, List.map_map]
  exact List.map_id s

/-- Octets are read as something, be it malformed. -/
theorem read_ne_nil {s : List UInt8} (h : s ≠ []) : read s ≠ [] := by
  cases s with
  | nil => exact absurd rfl h
  | cons a s =>
    unfold read
    repeat' split
    all_goals simp

/-- Octets are decoded to a text exactly if they are read as its characters, none of them malformed.
-/
theorem decode?_eq_some_iff {s : List UInt8} {t : Text} :
    decode? s = some t ↔ read s = t.map some := by
  rw [decode?]
  generalize read s = chars
  induction chars generalizing t with
  | nil => cases t <;> simp
  | cons c chars ih =>
    rw [List.mapM_cons]
    cases c with
    | none => cases t <;> simp
    | some c =>
      cases t with
      | nil => cases hrest : chars.mapM id <;> simp
      | cons d t =>
        rw [List.map_cons, List.cons.injEq, Option.some.injEq, ← ih]
        cases hrest : chars.mapM id <;> simp

/-- A point has one code point. -/
theorem eq_of_ofNat_eq_point {n : Nat} (h : Char.ofNat n = '.') : n = 46 := by
  by_cases hvalid : n.isValidChar
  · have htoNat : (Char.ofNat n).toNat = n := by
      rw [Char.ofNat, dif_pos hvalid]
      rfl
    rw [h] at htoNat
    exact htoNat.symm
  · rw [Char.ofNat, dif_neg hvalid] at h
    exact absurd h (by decide)

/-- Of three octets, the first two already stand for more than a point. -/
theorem lt_of_isSecond_three {a b : UInt8} (ha : 0xE0 ≤ a ∧ a ≤ 0xEF) (h : isSecond a b) :
    46 < a.toNat % 16 * 4096 + payload b * 64 := by
  simp only [isSecond, isTail, payload, ← UInt8.toNat_inj, UInt8.le_iff_toNat_le,
    UInt8.reduceToNat] at ha h ⊢
  grind

/-- Of four octets, the first two already stand for more than a point. -/
theorem lt_of_isSecond_four {a b : UInt8} (ha : 0xF0 ≤ a ∧ a ≤ 0xF4) (h : isSecond a b) :
    46 < a.toNat % 8 * 262144 + payload b * 4096 := by
  simp only [isSecond, isTail, payload, ← UInt8.toNat_inj, UInt8.le_iff_toNat_le,
    UInt8.reduceToNat] at ha h ⊢
  grind

/-- A point is read from its octet alone. -/
theorem eq_point_of_read {a : UInt8} {s : List UInt8} {chars : List (Option Char)}
    (h : read (a :: s) = some '.' :: chars) : a = 0x2E ∧ read s = chars := by
  have heq {n : Nat} {rest : List (Option Char)}
      (h : some (Char.ofNat n) :: rest = some '.' :: chars) : n = 46 :=
    eq_of_ofNat_eq_point (Option.some.inj (List.cons.inj h).1)
  unfold read at h
  split at h
  case isTrue => exact ⟨UInt8.toNat_inj.mp (heq h), (List.cons.inj h).2⟩
  case isFalse =>
    -- No longer sequence stands for a point.
    exfalso
    split at h
    case isTrue hlead =>
      simp only [UInt8.le_iff_toNat_le, UInt8.reduceToNat] at hlead
      repeat' split at h
      case h_2.isTrue =>
        have := heq h
        omega
      all_goals simp at h
    case isFalse =>
      split at h
      case isTrue hlead =>
        repeat' split at h
        case h_3.isTrue.isTrue hsecond _ =>
          have := heq h
          have := lt_of_isSecond_three hlead hsecond
          omega
        all_goals simp at h
      case isFalse =>
        split at h
        case isTrue hlead =>
          repeat' split at h
          case h_4.isTrue.isTrue.isTrue hsecond _ _ =>
            have := heq h
            have := lt_of_isSecond_four hlead hsecond
            omega
          all_goals simp at h
        case isFalse => simp at h

/-- Points are read from their octets alone. -/
theorem eq_replicate_of_read {s : List UInt8} {n : Nat}
    (h : read s = List.replicate n (some '.')) : s = List.replicate n 0x2E := by
  induction n generalizing s with
  | zero =>
    by_cases hs : s = []
    · exact hs
    · exact absurd h (read_ne_nil hs)
  | succ n ih =>
    cases s with
    | nil => simp [read] at h
    | cons a s =>
      obtain ⟨rfl, hs⟩ := eq_point_of_read h
      rw [ih hs, List.replicate_succ]

/-- The octets of points are read as points. -/
theorem read_replicate (n : Nat) :
    read (List.replicate n 0x2E) = List.replicate n (some '.') := by
  induction n with
  | zero => rfl
  | succ n ih =>
    rw [List.replicate_succ, List.replicate_succ, ← ih]
    exact read_utf8EncodeChar '.' _

end Utf8
end Routing
