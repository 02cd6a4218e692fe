/-
# Components

A text is put into one place of a URL as a component.  Whatever the text is, the component consists
of letters, digits, a few marks and escapes of octets (`IsComponent`), none of which ends the place,
and it stands for the text.

A component can still be a dot segment, since points are kept.  It is one only for a text that was
spelt as this dot segment before: points are read from spellings of points alone
(`eq_replicate_iff`).  So reading a text and writing it anew makes no dot segment, and nothing empty
either (`component_isFaithful`).
-/

import Mathlib.Data.Bool.AllAny
import Routing.Proofs.Url.Dots

namespace Routing
namespace Percent

/-- Letters and digits of ASCII, the marks `-_.!~*'()`, and octets, each of them a percent sign with
two uppercase hexadecimal digits. -/
inductive IsComponent : Text → Prop where
  /-- The empty text. -/
  | nil : IsComponent []
  /-- A letter, a digit or a mark in front. -/
  | char {c : Char} {s : Text} (hc : c.isAlphanum ∨ c ∈ "-_.!~*'()".toList) (hs : IsComponent s) :
    IsComponent (c :: s)
  /-- An octet in front. -/
  | octet {a b : Char} {s : Text} (ha : a ∈ "0123456789ABCDEF".toList)
    (hb : b ∈ "0123456789ABCDEF".toList) (hs : IsComponent s) : IsComponent ('%' :: a :: b :: s)

/-- A character of the Unicode category `Cc`. -/
def isControl (c : Char) : Bool := c.toNat < 0x20 || (0x7F ≤ c.toNat && c.toNat ≤ 0x9F)

/-- A character that ends no part of a URL and is neither a blank nor a control character. -/
def IsInert (c : Char) : Prop := c ∉ "/?#\\".toList ∧ ¬Text.isBlank c ∧ ¬isControl c

instance (c : Char) : Decidable (IsInert c) := inferInstanceAs (Decidable (_ ∧ _))

namespace IsComponent

variable {s t : Text}

/-- Components in a row are a component. -/
theorem append (hs : IsComponent s) (ht : IsComponent t) : IsComponent (s ++ t) := by
  induction hs with
  | nil => exact ht
  | char hc _ ih => exact .char hc ih
  | octet ha hb _ ih => exact .octet ha hb ih

/-- Components stay within their place. -/
theorem isInert (h : IsComponent s) : ∀ c ∈ s, IsInert c := by
  have halphanum {c : Char} (hc : c.isAlphanum) : IsInert c :=
    of_ascii (P := fun c => c.isAlphanum → IsInert c) (by decide) (lt_of_isAlphanumeric hc) hc
  have hmarks : ∀ c ∈ "-_.!~*'()".toList, IsInert c := List.all_iff_forall_prop.mp (by decide)
  have hdigits : ∀ c ∈ "0123456789ABCDEF".toList, IsInert c :=
    List.all_iff_forall_prop.mp (by decide)
  induction h with
  | nil => simp
  | char hc _ ih => exact List.forall_mem_cons.mpr ⟨hc.elim halphanum (hmarks _), ih⟩
  | octet ha hb _ ih =>
    refine List.forall_mem_cons.mpr ⟨by decide, List.forall_mem_cons.mpr ⟨hdigits _ ha, ?_⟩⟩
    exact List.forall_mem_cons.mpr ⟨hdigits _ hb, ih⟩

end IsComponent

/-- The digits of an octet are uppercase hexadecimal digits. -/
theorem hexDigit_mem : ∀ n < 16, Text.hexDigit n ∈ "0123456789ABCDEF".toList := by decide

/-- Octets are written as a component. -/
theorem isComponent_flatMap_octet (bs : List UInt8) : IsComponent (bs.flatMap octet) := by
  induction bs with
  | nil => exact .nil
  | cons b bs ih =>
    have hb := b.toNat_lt
    exact .octet (hexDigit_mem _ (by omega)) (hexDigit_mem _ (by omega)) ih

/-- **An encoded text is a component.** -/
theorem isComponent_encode (s : Text) : IsComponent (encode component s) := by
  induction s with
  | nil => exact .nil
  | cons c s ih =>
    rw [encode, List.flatMap_cons]
    refine IsComponent.append ?_ ih
    unfold encodeChar
    split
    case isTrue hc =>
      simp only [component, isAlphanumeric, Bool.or_eq_true, List.contains_iff_mem] at hc
      exact .char hc .nil
    case isFalse => exact isComponent_flatMap_octet _

/-- Points are encoded as they are, and nothing else is encoded as points. -/
theorem encode_component_eq_replicate_iff {s : Text} {n : Nat} :
    encode component s = List.replicate n '.' ↔ s = List.replicate n '.' := by
  have hpoints : encode component (List.replicate n '.') = List.replicate n '.' :=
    encode_eq_self fun c hc => by
      rw [List.eq_of_mem_replicate hc]
      decide
  constructor
  · exact fun h => encode_injective (by decide) (h.trans hpoints.symm)
  · rintro rfl
    exact hpoints

/-- **Points are read from the octets of points alone.** -/
theorem eq_replicate_iff {r s : Text} (h : decode? r = some s) {n : Nat} :
    s = List.replicate n '.' ↔ octets r = List.replicate n 0x2E := by
  have hread : Utf8.read (octets r) = s.map some := Utf8.decode?_eq_some_iff.mp h
  constructor
  · rintro rfl
    exact Utf8.eq_replicate_of_read (hread.trans List.map_replicate)
  · intro hoctets
    rw [hoctets, Utf8.read_replicate, ← List.map_replicate] at hread
    exact ((List.map_inj_right fun _ _ => Option.some.inj).mp hread).symm

/-- The empty text is read from the empty text alone. -/
theorem eq_nil_iff {r s : Text} (h : decode? r = some s) : s = [] ↔ r = [] := by
  have hempty : octets r = [] ↔ r = [] := ⟨Segments.octets_eq_nil, fun hr => hr ▸ rfl⟩
  exact (eq_replicate_iff h (n := 0)).trans hempty

/-- **A component stays within its place and stands for its text**, so that no two texts have the
same component.  Whatever else stands for the text is empty just if the text is, and is a spelling
of a dot segment just if the component is this dot segment. -/
theorem component_isFaithful :
    (∀ s, IsComponent (encode component s) ∧ (∀ c ∈ encode component s, IsInert c) ∧
      decode? (encode component s) = some s) ∧
    Function.Injective (encode component) ∧
    ∀ r s, decode? r = some s →
      (s = [] ↔ r = []) ∧
      (encode component s = ['.'] ↔ r ∈ Segments.points) ∧
      (encode component s = ['.', '.'] ↔
        ∃ p ∈ Segments.points, ∃ q ∈ Segments.points, r = p ++ q) := by
  refine ⟨fun s => ?_, encode_injective (by decide), fun r s h => ⟨eq_nil_iff h, ?_, ?_⟩⟩
  · have hcomponent := isComponent_encode s
    exact ⟨hcomponent, hcomponent.isInert, decode?_encode (by decide) s⟩
  · rw [← Segments.isSingleDot_iff_mem, Segments.isSingleDot_iff]
    exact (encode_component_eq_replicate_iff (n := 1)).trans (eq_replicate_iff h)
  · rw [← Segments.isDoubleDot_iff_exists, Segments.isDoubleDot_iff]
    exact (encode_component_eq_replicate_iff (n := 2)).trans (eq_replicate_iff h)

/-- Two points, one of them written as an octet with a lowercase digit. -/
theorem component_isFaithful_points :
    decode? "%2e.".toList = some "..".toList ∧
      ∃ p ∈ Segments.points, ∃ q ∈ Segments.points, "%2e.".toList = p ++ q := by
  have h : decode? "%2e.".toList = some "..".toList := by decide
  exact ⟨h, ((component_isFaithful.2.2 _ _ h).2.2).mp (by decide)⟩

end Percent
end Routing
