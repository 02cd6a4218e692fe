/-
# Form-encoded pairs read back

Parsing rendered pairs gives them back (`parse_render`), whatever their keys and values are.
A rendered query consists of characters that every query of a URL keeps.

A key or value is percent-encoded but for blanks, which become `+`.  So reading `+` as a blank
first leaves a percent-encoded text (`map_encode`), which decodes by the laws of that encoding.
The separators `&` and `=` are never kept, hence the pairs are split where they were joined.
-/

import Routing.Proofs.Text.Percent
import Routing.Proofs.Text.Splitting
import Routing.Text.Form

namespace Routing
namespace Form

/-- The encoding of keys and values, before blanks become `+`. -/
def keptOrBlank : Percent.Kept := fun c => kept c || c == ' '

/-- Escapes have no `+` that could be taken for a blank. -/
theorem hexDigit_ne_plus : ∀ n < 16, Text.hexDigit n ≠ '+' := by decide

/-- An escape is left alone when `+` is read as a blank. -/
theorem map_octet (b : UInt8) :
    (Percent.octet b).map (fun c => if c = '+' then ' ' else c) = Percent.octet b := by
  have hb := b.toNat_lt
  simp [Percent.octet, hexDigit_ne_plus _ (show b.toNat / 16 < 16 by omega),
    hexDigit_ne_plus _ (show b.toNat % 16 < 16 by omega)]

/-- Reading `+` as a blank turns a written key or value into its percent-encoding. -/
theorem map_encode (s : Text) :
    (encode s).map (fun c => if c = '+' then ' ' else c) = Percent.encode keptOrBlank s := by
  induction s with
  | nil => rfl
  | cons c s ih =>
    rw [encode, List.flatMap_cons, List.map_append, ← encode, ih, Percent.encode, Percent.encode,
      List.flatMap_cons]
    congr 1
    by_cases hc : c = ' '
    · subst hc
      decide
    · have hkept : keptOrBlank c = kept c := by simp [keptOrBlank, hc]
      rw [encodeChar, if_neg hc, Percent.encodeChar, Percent.encodeChar, hkept]
      split
      case isTrue h =>
        have : c ≠ '+' := fun heq => by rw [heq] at h; exact absurd h (by decide)
        simp [this]
      case isFalse =>
        induction String.utf8EncodeChar c with
        | nil => rfl
        | cons b bs ih => rw [List.flatMap_cons, List.map_append, map_octet, ih]

/-- **A written key or value is read back.** -/
theorem decode_encode (s : Text) : decode (encode s) = s := by
  rw [decode, map_encode, Percent.decodeLossy_encode (by decide)]

/-- What is written of a key or a value besides the kept characters. -/
theorem forall_mem_encode {P : Char → Prop} (hkept : ∀ c, kept c → P c) (hplus : P '+')
    (hpercent : P '%') (hhex : ∀ c, (Text.hexValue? c).isSome → P c) (s : Text) :
    ∀ c ∈ encode s, P c := by
  intro c hc
  obtain ⟨d, -, hc⟩ := List.mem_flatMap.mp hc
  unfold encodeChar at hc
  split at hc
  case isTrue => exact List.mem_singleton.mp hc ▸ hplus
  case isFalse =>
    have hd : Percent.Escaped kept (Percent.encodeChar kept d) := by
      have hkept : kept '%' = false := by decide
      simpa [Percent.encode] using Percent.escaped_encode hkept [d]
    exact hd.forall_mem hkept hpercent hhex c hc

/-- The encoding keeps characters of ASCII only. -/
theorem kept_lt {c : Char} (h : kept c) : c.toNat < 128 :=
  Percent.lt_of_isAlphanumeric_or (by decide) h

/-- Keys and values contain neither what ends a pair nor what ends a key. -/
theorem not_mem_encode {d : Char} (hd : d = '&' ∨ d = '=') (s : Text) : d ∉ encode s := by
  intro h
  refine forall_mem_encode (P := fun c => c ≠ '&' ∧ c ≠ '=') ?_ ⟨by decide, by decide⟩
    ⟨by decide, by decide⟩ ?_ s d h |>.elim fun h₁ h₂ => hd.elim h₁ h₂
  · intro c hc
    exact Percent.of_ascii (P := fun c => kept c → c ≠ '&' ∧ c ≠ '=') (by decide) (kept_lt hc) hc
  · intro c hc
    exact Percent.of_ascii (P := fun c => (Text.hexValue? c).isSome → c ≠ '&' ∧ c ≠ '=')
      (by decide) (Percent.lt_of_hexValue?_isSome hc) hc

/-- A pair is read back: the first `=` is the one between key and value. -/
theorem parsePair_renderPair (pair : Text × Text) : parsePair (renderPair pair) = pair := by
  rw [parsePair, renderPair, Text.cutAt_append_cons (not_mem_encode (.inr rfl) _)]
  simp [decode_encode]

/-- **Parsing rendered pairs gives them back.** -/
theorem parse_render (pairs : List (Text × Text)) : parse (render pairs) = pairs := by
  cases pairs with
  | nil => rfl
  | cons first pairs =>
    rw [parse, render, Text.splitBy_intercalate (by rfl) (by simp)]
    · have hne : ∀ piece ∈ (first :: pairs).map renderPair, !piece.isEmpty := by
        intro piece h
        obtain ⟨pair, -, rfl⟩ := List.mem_map.mp h
        simp [renderPair]
      rw [List.filter_eq_self.mpr hne, List.map_map]
      exact (List.map_congr_left fun pair _ => parsePair_renderPair pair).trans (List.map_id _)
    · intro piece h
      obtain ⟨pair, -, rfl⟩ := List.mem_map.mp h
      intro c hc
      rw [beq_eq_false_iff_ne]
      rintro rfl
      simp only [renderPair, List.mem_append, List.mem_cons] at hc
      rcases hc with hc | hc | hc
      · exact not_mem_encode (.inl rfl) _ hc
      · exact absurd hc (by decide)
      · exact not_mem_encode (.inl rfl) _ hc

/-- What the queries of all URLs keep. -/
theorem query_of_mem_render {c : Char} {pairs : List (Text × Text)} (h : c ∈ render pairs) :
    Percent.specialQuery c := by
  have hencode (s : Text) : ∀ c ∈ encode s, Percent.specialQuery c := by
    refine forall_mem_encode (fun c hc => ?_) (by decide) (by decide) (fun c hc => ?_) s
    · exact Percent.of_ascii (P := fun c => kept c → Percent.specialQuery c) (by decide)
        (kept_lt hc) hc
    · exact Percent.of_ascii (P := fun c => (Text.hexValue? c).isSome → Percent.specialQuery c)
        (by decide) (Percent.lt_of_hexValue?_isSome hc) hc
  have hpair (pair : Text × Text) : ∀ c ∈ renderPair pair, Percent.specialQuery c := by
    intro c hc
    simp only [renderPair, List.mem_append, List.mem_cons] at hc
    rcases hc with hc | rfl | hc
    · exact hencode _ c hc
    · decide
    · exact hencode _ c hc
  -- The induction asks for two pairs at a time, as an ampersand stands between them.
  induction pairs with
  | nil => simp [render, List.intercalate] at h
  | cons first pairs ih =>
    cases pairs with
    | nil => exact hpair first c (by simpa [render, List.intercalate] using h)
    | cons second pairs =>
      simp only [render, List.map_cons, List.intercalate, List.intersperse_cons_cons,
        List.flatten_cons, List.mem_append, List.mem_singleton] at h
      rcases h with h | rfl | h
      · exact hpair first c h
      · decide
      · exact ih (by simpa [render, List.intercalate] using h)

end Form
end Routing
