/-
# Dot segments

A dot segment is one or two points, each of them spelt out or percent-encoded.  So whether a
segment is one is a matter of its octets (`isDot_iff`), and octets tell apart what is written
before and behind points (`octets_append_of_points`).

Reading a point from octets leaves no choice: it is the octet 0x2E, which is spelt by the character
itself or by one of two escapes (`exists_point`).  Longer sequences of octets stand for characters
behind it in the order of code points (`Utf8.eq_point_of_read`).
-/

import Routing.Proofs.Text.Percent
import Routing.Url.Segments

namespace Routing
namespace Segments

/-- The spellings of a point. -/
def points : List Text := [['.'], ['%', '2', 'e'], ['%', '2', 'E']]

/-- Every spelling of a point stands for the one octet of a point. -/
theorem octets_point_append {p : Text} (h : p ∈ points) (s : Text) :
    Percent.octets (p ++ s) = 0x2E :: Percent.octets s := by
  simp only [points, List.mem_cons, List.not_mem_nil, or_false] at h
  rcases h with rfl | rfl | rfl <;> rfl

/-- An octet of a point is spelt in one of the three ways. -/
theorem exists_point {s : Text} {bs : List UInt8} (h : Percent.octets s = 0x2E :: bs) :
    ∃ p ∈ points, ∃ t, s = p ++ t ∧ Percent.octets t = bs := by
  rw [Percent.octets.eq_def] at h
  split at h
  case h_1 => cases h
  case h_2 a b t =>
    split at h
    case h_1 x y hx hy =>
      obtain ⟨hoctet, hrest⟩ := List.cons.inj h
      have hx' := Percent.hexValue?_lt hx
      have hy' := Percent.hexValue?_lt hy
      -- The two digits of the escape have to be 2 and 14.
      have hsum : 16 * x + y = 46 := by
        have := congrArg UInt8.toNat hoctet
        rwa [Utf8.toNat_ofNat_of_lt (by omega)] at this
      obtain rfl : x = 2 := by omega
      obtain rfl : y = 14 := by omega
      have ha : a = '2' := by
        have hlt := Percent.lt_of_hexValue?_isSome (by rw [hx]; rfl)
        exact Percent.of_ascii (P := fun a => Text.hexValue? a = some 2 → a = '2') (by decide)
          hlt hx
      have hb : b = 'e' ∨ b = 'E' := by
        have hlt := Percent.lt_of_hexValue?_isSome (by rw [hy]; rfl)
        exact Percent.of_ascii (P := fun b => Text.hexValue? b = some 14 → b = 'e' ∨ b = 'E')
          (by decide) hlt hy
      subst ha
      rcases hb with rfl | rfl
      · exact ⟨['%', '2', 'e'], by decide, t, rfl, hrest⟩
      · exact ⟨['%', '2', 'E'], by decide, t, rfl, hrest⟩
    case h_2 => exact absurd (List.cons.inj h).1 (by decide)
  case h_3 c t _ =>
    have hread := congrArg Utf8.read h
    have hpoint : Utf8.read (0x2E :: bs) = some '.' :: Utf8.read bs :=
      Utf8.read_utf8EncodeChar '.' bs
    rw [Utf8.read_utf8EncodeChar, hpoint] at hread
    obtain rfl : c = '.' := Option.some.inj (List.cons.inj hread).1
    exact ⟨['.'], by decide, t, rfl, (List.cons.inj h).2⟩

/-- A segment of one point is one of the spellings. -/
theorem isSingleDot_iff_mem (s : Text) : isSingleDot s ↔ s ∈ points := by
  simp only [isSingleDot, points, String.reduceToList, List.any_cons, List.any_nil, Bool.or_false,
    Bool.or_eq_true, beq_iff_eq, List.mem_cons, List.not_mem_nil, or_false]
  simp only [eq_comm]

/-- A segment of two points is two spellings in a row. -/
theorem isDoubleDot_iff_exists (s : Text) :
    isDoubleDot s ↔ ∃ p ∈ points, ∃ q ∈ points, s = p ++ q := by
  constructor
  · intro h
    have hmem : s ∈ points.flatMap fun p => points.map (p ++ ·) := by
      simp only [isDoubleDot, String.reduceToList, List.any_cons, List.any_nil, Bool.or_false,
        Bool.or_eq_true, beq_iff_eq] at h
      rcases h with rfl | rfl | rfl | rfl | rfl | rfl | rfl | rfl | rfl <;> decide
    simp only [List.mem_flatMap, List.mem_map] at hmem
    obtain ⟨p, hp, q, hq, rfl⟩ := hmem
    exact ⟨p, hp, q, hq, rfl⟩
  · rintro ⟨p, hp, q, hq, rfl⟩
    have hall : ∀ p ∈ points, ∀ q ∈ points, isDoubleDot (p ++ q) := by decide
    exact hall p hp q hq

/-- Only the empty text stands for no octets. -/
theorem octets_eq_nil {s : Text} (h : Percent.octets s = []) : s = [] := by
  rw [Percent.octets.eq_def] at h
  split at h
  case h_1 => rfl
  case h_2 => split at h <;> cases h
  case h_3 c t _ => exact absurd (List.append_eq_nil_iff.mp h).1 String.utf8EncodeChar_ne_nil

/-- A segment of one point is one whose octets are those of a point. -/
theorem isSingleDot_iff (s : Text) : isSingleDot s ↔ Percent.octets s = [0x2E] := by
  rw [isSingleDot_iff_mem]
  constructor
  · intro h
    have := octets_point_append h []
    rwa [List.append_nil] at this
  · intro h
    obtain ⟨p, hp, t, rfl, ht⟩ := exists_point h
    rwa [octets_eq_nil ht, List.append_nil]

/-- A segment of two points is one whose octets are those of two points. -/
theorem isDoubleDot_iff (s : Text) : isDoubleDot s ↔ Percent.octets s = [0x2E, 0x2E] := by
  rw [isDoubleDot_iff_exists]
  constructor
  · rintro ⟨p, hp, q, hq, rfl⟩
    rw [octets_point_append hp, (isSingleDot_iff q).mp ((isSingleDot_iff_mem q).mpr hq)]
  · intro h
    obtain ⟨p, hp, t, rfl, ht⟩ := exists_point h
    exact ⟨p, hp, t, (isSingleDot_iff_mem t).mp ((isSingleDot_iff t).mpr ht), rfl⟩

/-- **A dot segment stands for one or two points.**  However they are spelled, the octets decide. -/
theorem isDot_iff (s : Text) :
    isDot s ↔ Percent.octets s = [0x2E] ∨ Percent.octets s = [0x2E, 0x2E] := by
  rw [isDot, Bool.or_eq_true, isSingleDot_iff, isDoubleDot_iff]

/-- Points are read apart from what follows. -/
theorem octets_append_of_points {s : Text} {n : Nat}
    (h : Percent.octets s = List.replicate n 0x2E) (t : Text) :
    Percent.octets (s ++ t) = Percent.octets s ++ Percent.octets t := by
  induction n generalizing s with
  | zero => obtain rfl := octets_eq_nil h; rfl
  | succ n ih =>
    obtain ⟨p, hp, s, rfl, hs⟩ := exists_point h
    rw [List.append_assoc, octets_point_append hp, octets_point_append hp, ih hs, List.cons_append]

end Segments
end Routing
