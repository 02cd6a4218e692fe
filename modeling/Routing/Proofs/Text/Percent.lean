/-
# Percent-encoded text read back

The octets of an encoded text are those of the text, as long as the encoding does not keep
`%` (`octets_encode`), so decoding restores it.  `Escaped kept` holds of the texts that
consist of kept characters and complete escapes, such as every encoded text; what follows
such a text does not change its octets.

Decoding looks two characters ahead only behind `%`.  So a text splits from what follows it if it
does not end in a piece of an escape, which is what `Escaped` says, and the encodings are all of
this kind.  Facts about single characters are reduced to the 128 characters of ASCII and checked
for each of them (`of_ascii`).
-/

import Routing.Proofs.Text.Utf8
import Routing.Text.Percent

namespace Routing
namespace Percent

/-- A hexadecimal digit is read as the number it was written for. -/
theorem hexValue?_hexDigit : ∀ n < 16, Text.hexValue? (Text.hexDigit n) = some n := by decide

/-- Hexadecimal digits are characters of ASCII. -/
theorem lt_of_hexValue?_isSome {c : Char} (h : (Text.hexValue? c).isSome) : c.toNat < 128 := by
  have hle (d : Char) : c ≤ d ↔ c.toNat ≤ d.toNat := Char.le_def.trans UInt32.le_iff_toNat_le
  simp only [Text.hexValue?, hle] at h
  have hall : '9'.toNat < 128 ∧ 'F'.toNat < 128 ∧ 'f'.toNat < 128 := by decide
  split at h
  · omega
  · split at h
    · omega
    · split at h
      · omega
      · simp at h

/-- A property of the characters of ASCII holds once it holds of each of them. -/
theorem of_ascii {P : Char → Prop} (h : ∀ n < 128, P (Char.ofNat n)) {c : Char}
    (hc : c.toNat < 128) : P c := by
  have := h c.toNat hc
  rwa [Char.ofNat_toNat] at this

/-- A hexadecimal digit has a value below sixteen. -/
theorem hexValue?_lt {c : Char} {n : Nat} (h : Text.hexValue? c = some n) : n < 16 := by
  have hc := lt_of_hexValue?_isSome (c := c) (by rw [h]; rfl)
  have := of_ascii (P := fun c => (Text.hexValue? c).all (· < 16)) (by decide) hc
  simpa [h] using this

/-- Letters and digits are characters of ASCII. -/
theorem lt_of_isAlphanumeric {c : Char} (h : isAlphanumeric c) : c.toNat < 128 := by
  delta isAlphanumeric Char.isAlphanum Char.isAlpha Char.isUpper Char.isLower Char.isDigit at h
  simp only [Bool.or_eq_true, Bool.and_eq_true, decide_eq_true_eq, UInt32.le_iff_toNat_le] at h
  rcases h with (h | h) | h <;> exact Nat.lt_of_le_of_lt h.2 (by decide)

/-- Letters, digits and some further characters of ASCII are ASCII. -/
theorem lt_of_isAlphanumeric_or {further : Text}
    (hfurther : further.all fun c => c.toNat < 128) {c : Char}
    (h : isAlphanumeric c || further.contains c) : c.toNat < 128 := by
  rcases Bool.or_eq_true_iff.mp h with h | h
  · exact lt_of_isAlphanumeric h
  · exact of_decide_eq_true (List.all_eq_true.mp hfurther c (List.contains_iff_mem.mp h))

/-- An octet that is written as an escape is read back. -/
theorem octets_octet (b : UInt8) (s : Text) : octets (octet b ++ s) = b :: octets s := by
  have hb := b.toNat_lt
  simp only [octet, List.cons_append, List.nil_append]
  rw [octets, hexValue?_hexDigit _ (by omega), hexValue?_hexDigit _ (by omega)]
  simp only [List.cons.injEq, and_true]
  rw [← UInt8.toNat_inj, Utf8.toNat_ofNat_of_lt (by omega)]
  omega

/-- Octets that are written as escapes are read back, one after the other. -/
theorem octets_flatMap_octet (bs : List UInt8) (s : Text) :
    octets (bs.flatMap octet ++ s) = bs ++ octets s := by
  induction bs with
  | nil => rfl
  | cons b bs ih => rw [List.flatMap_cons, List.append_assoc, octets_octet, ih, List.cons_append]

/-- A character other than `%` stands for its own octets. -/
theorem octets_cons_of_ne {c : Char} (h : c ≠ '%') (s : Text) :
    octets (c :: s) = String.utf8EncodeChar c ++ octets s := by
  rw [octets.eq_def]
  split
  case h_1 heq => cases heq
  case h_2 heq => exact absurd (List.cons.inj heq).1 h
  case h_3 heq =>
    obtain ⟨rfl, rfl⟩ := List.cons.inj heq
    rfl

/-- A character stands for its octets, whether it is kept or escaped. -/
theorem octets_encodeChar {kept : Kept} (h : kept '%' = false) (c : Char) (s : Text) :
    octets (encodeChar kept c ++ s) = String.utf8EncodeChar c ++ octets s := by
  unfold encodeChar
  split
  case isTrue hc => exact octets_cons_of_ne (fun heq => by simp [heq, h] at hc) s
  case isFalse => exact octets_flatMap_octet _ s

/-- **The octets of an encoded text are those of the text.** -/
theorem octets_encode_append {kept : Kept} (h : kept '%' = false) (s t : Text) :
    octets (encode kept s ++ t) = Utf8.encode s ++ octets t := by
  induction s with
  | nil => rfl
  | cons c s ih =>
    rw [encode, List.flatMap_cons, List.append_assoc, octets_encodeChar h, ← encode, ih,
      Utf8.encode, Utf8.encode, List.flatMap_cons, List.append_assoc]

/-- The octets of an encoded text, when nothing follows. -/
theorem octets_encode {kept : Kept} (h : kept '%' = false) (s : Text) :
    octets (encode kept s) = Utf8.encode s := by
  have := octets_encode_append h s []
  simpa [octets] using this

/-- **Decoding restores an encoded text.** -/
theorem decode?_encode {kept : Kept} (h : kept '%' = false) (s : Text) :
    decode? (encode kept s) = some s := by
  rw [decode?, octets_encode h, Utf8.decode?_encode]

/-- Texts with the same encoding are equal, since decoding gives both. -/
theorem encode_injective {kept : Kept} (h : kept '%' = false) :
    Function.Injective (encode kept) := fun s t heq => by
  have hdecode := congrArg decode? heq
  rw [decode?_encode h, decode?_encode h] at hdecode
  exact Option.some.inj hdecode

/-- The lenient way to decode restores an encoded text as well. -/
theorem decodeLossy_encode {kept : Kept} (h : kept '%' = false) (s : Text) :
    decodeLossy (encode kept s) = s := by
  rw [decodeLossy, octets_encode h, Utf8.decodeLossy_encode]

/-- An encoding that keeps every character of a text leaves it as it is. -/
theorem encode_eq_self {kept : Kept} {s : Text} (h : ∀ c ∈ s, kept c) : encode kept s = s := by
  induction s with
  | nil => rfl
  | cons c s ih =>
    rw [encode, List.flatMap_cons, ← encode, ih fun d hd => h d (List.mem_cons_of_mem _ hd),
      encodeChar, if_pos (h c List.mem_cons_self)]
    rfl

/-- A text of kept characters and complete escapes. -/
inductive Escaped (kept : Kept) : Text → Prop where
  /-- The empty text. -/
  | nil : Escaped kept []
  /-- A kept character in front. -/
  | char {c : Char} {s : Text} (hc : kept c) (hne : c ≠ '%') (hs : Escaped kept s) :
    Escaped kept (c :: s)
  /-- An escape in front. -/
  | escape {a b : Char} {s : Text} (ha : (Text.hexValue? a).isSome)
    (hb : (Text.hexValue? b).isSome) (hs : Escaped kept s) : Escaped kept ('%' :: a :: b :: s)

namespace Escaped

variable {kept : Kept} {s t : Text}

/-- Texts of complete escapes can be put together, as no escape reaches over the seam. -/
theorem append (hs : Escaped kept s) (ht : Escaped kept t) : Escaped kept (s ++ t) := by
  induction hs with
  | nil => exact ht
  | char hc hne _ ih => exact .char hc hne ih
  | escape ha hb _ ih => exact .escape ha hb ih

/-- A property of the kept characters, of `%` and of the hexadecimal digits holds of every
character of the text. -/
theorem forall_mem {P : Char → Prop} (hkept : ∀ c, kept c → P c) (hpercent : P '%')
    (hhex : ∀ c, (Text.hexValue? c).isSome → P c) (hs : Escaped kept s) : ∀ c ∈ s, P c := by
  induction hs with
  | nil => simp
  | char hc _ _ ih =>
    intro d hd
    rcases List.mem_cons.mp hd with rfl | hd
    · exact hkept _ hc
    · exact ih d hd
  | escape ha hb _ ih =>
    intro d hd
    rcases List.mem_cons.mp hd with rfl | hd
    · exact hpercent
    · rcases List.mem_cons.mp hd with rfl | hd
      · exact hhex _ ha
      · rcases List.mem_cons.mp hd with rfl | hd
        · exact hhex _ hb
        · exact ih d hd

/-- What follows does not change the octets of the text. -/
theorem octets_append (hs : Escaped kept s) (t : Text) :
    octets (s ++ t) = octets s ++ octets t := by
  induction hs with
  | nil => rfl
  | char _ hne _ ih =>
    rw [List.cons_append, octets_cons_of_ne hne, octets_cons_of_ne hne, ih, List.append_assoc]
  | escape ha hb _ ih =>
    obtain ⟨x, hx⟩ := Option.isSome_iff_exists.mp ha
    obtain ⟨y, hy⟩ := Option.isSome_iff_exists.mp hb
    simp only [List.cons_append]
    rw [octets, octets, hx, hy]
    simp only [ih, List.cons_append]

/-- Escaped octets are complete escapes, whatever is kept. -/
theorem flatMap_octet (bs : List UInt8) : Escaped kept (bs.flatMap octet) := by
  induction bs with
  | nil => exact .nil
  | cons b bs ih =>
    have hb := b.toNat_lt
    refine .escape ?_ ?_ ih
    · rw [hexValue?_hexDigit _ (by omega)]; rfl
    · rw [hexValue?_hexDigit _ (by omega)]; rfl

end Escaped

/-- **An encoded text consists of kept characters and escapes.** -/
theorem escaped_encode {kept : Kept} (h : kept '%' = false) (s : Text) :
    Escaped kept (encode kept s) := by
  induction s with
  | nil => exact .nil
  | cons c s ih =>
    rw [encode, List.flatMap_cons]
    refine Escaped.append ?_ ih
    unfold encodeChar
    split
    case isTrue hc => exact .char hc (fun heq => by simp [heq, h] at hc) .nil
    case isFalse => exact .flatMap_octet _

/-- An encoded text is empty only if the text is. -/
theorem encode_eq_nil {kept : Kept} {s : Text} (h : encode kept s = []) : s = [] := by
  cases s with
  | nil => rfl
  | cons c s =>
    rw [encode, List.flatMap_cons, List.append_eq_nil_iff] at h
    exfalso
    have hc := h.1
    unfold encodeChar at hc
    split at hc
    · simp at hc
    · cases hb : String.utf8EncodeChar c with
      | nil => exact String.utf8EncodeChar_ne_nil hb
      | cons b bs => simp [hb, octet] at hc

end Percent
end Routing
