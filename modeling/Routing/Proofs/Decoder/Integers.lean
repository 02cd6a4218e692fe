/-
# Segments that are integers

A segment is decoded as the integer that it spells when the blanks around it are gone, as zero if
nothing is left, and otherwise as no number.  The blanks are those of Unicode: were they only those
of ASCII, a no-break space before a number would make it no number, and the two ways differ exactly
where blanks of the one kind that are none of the other stand around an integer
(`integer_decodesAs_trim`).
-/

import Mathlib.Data.Bool.AllAny
import Routing.Proofs.Decimal.Spelling
import Routing.Proofs.Decoder.RoundTrip

namespace Routing
namespace Text

/-- A blank of ASCII. -/
def isAsciiBlank (c : Char) : Bool := [' ', '\t', '\n', '\x0c', '\r'].contains c

/-- The blanks of ASCII are blanks. -/
theorem isBlank_of_isAsciiBlank {c : Char} (h : isAsciiBlank c) : isBlank c := by
  have hall : ∀ c ∈ [' ', '\t', '\n', '\x0c', '\r'], isBlank c :=
    List.all_iff_forall_prop.mp (by decide)
  exact hall c (List.contains_iff_mem.mp h)

end Text

namespace Decoder

/-- The text stands for the integer: it spells it, or nothing stands for zero. -/
def Denotes (t : Text) (n : Int) : Prop := t = [] ∧ n = 0 ∨ Number.Spells t n

/-- The segment `s` is decoded as what the text `t` stands for, which is NaN if that is no integer
of 64 bits. -/
structure DecodesAs (s t : Text) : Prop where
  /-- An integer of 64 bits is the one that the text stands for. -/
  integer_iff : ∀ n : Int64, integer.decode s = .ok (.integer n) ↔ Denotes t n.toInt
  /-- All else is no number. -/
  nan : (∀ n : Int64, ¬Denotes t n.toInt) → integer.decode s = .ok (.float .nan)

/-- A segment is decoded as what it spells without the blanks around it. -/
theorem decodesAs_trim (s : Text) : DecodesAs s (Text.trim s) := by
  have hdecode : integer.decode s = .ok (decodeInteger s) := rfl
  have hnotEmpty (n : Int) : ¬Number.Spells [] n := fun h => by
    cases h with
    | unsigned h => exact h.1 rfl
  unfold decodeInteger at hdecode
  -- Nothing but blanks is zero; anything else is read as an integer if it spells one.
  by_cases hempty : Text.trim s = []
  · simp only [hempty, List.isEmpty_nil, if_true] at hdecode
    refine ⟨fun n => ?_, fun h => absurd (.inl ⟨hempty, rfl⟩) (h 0)⟩
    rw [hdecode, Denotes, hempty]
    constructor
    · intro heq
      cases heq
      exact .inl ⟨rfl, rfl⟩
    · rintro (⟨-, hn⟩ | h)
      · rw [Int64.toInt_inj.mp (hn.trans Int64.toInt_zero.symm)]
      · exact absurd h (hnotEmpty _)
  · simp only [List.isEmpty_iff, hempty, if_false] at hdecode
    have hdenotes (n : Int64) :
        Denotes (Text.trim s) n.toInt ↔ Number.int64? (Text.trim s) = some n := by
      rw [Number.int64?_eq_some_iff, Denotes, or_iff_right fun h => hempty h.1]
    cases hint : Number.int64? (Text.trim s) with
    | none =>
      rw [hint] at hdecode
      exact ⟨fun n => by simp [hdecode, hdenotes, hint], fun _ => hdecode⟩
    | some m =>
      rw [hint] at hdecode
      refine ⟨fun n => by simp [hdecode, hdenotes, hint], fun h => ?_⟩
      exact absurd hint (mt (hdenotes m).mpr (h m))

/-- **An integer is decoded as its text without the blanks of Unicode around it.**  The blanks of
ASCII would do if the others are not there, or if no integer is. -/
theorem integer_decodesAs_trim (s : Text) :
    DecodesAs s (Text.trim s) ∧
      (DecodesAs s (Text.trimBy Text.isAsciiBlank s) ↔
        Text.trimBy Text.isAsciiBlank s = Text.trim s ∨
          ∀ n : Int64, ¬Denotes (Text.trim s) n.toInt) := by
  have htrim := decodesAs_trim s
  have heq {n : Int} (h : Denotes (Text.trimBy Text.isAsciiBlank s) n) :
      Text.trimBy Text.isAsciiBlank s = Text.trim s := by
    have hblank : ∀ c ∈ Text.trimBy Text.isAsciiBlank s, Text.isBlank c = false := by
      rcases h with ⟨hempty, -⟩ | h
      · simp [hempty]
      · exact h.isBlank
    rw [← Text.trimBy_eq_self hblank, Text.trimBy_trimBy (fun _ => Text.isBlank_of_isAsciiBlank)]
    rfl
  refine ⟨htrim, fun h => ?_, ?_⟩
  · by_contra hnot
    obtain ⟨hne, hdenotes⟩ := not_or.mp hnot
    push Not at hdenotes
    obtain ⟨n, hn⟩ := hdenotes
    exact hne (heq ((h.integer_iff n).mp ((htrim.integer_iff n).mpr hn)))
  · rintro (heq | hnot)
    · exact heq ▸ htrim
    · have hnone (n : Int64) : ¬Denotes (Text.trimBy Text.isAsciiBlank s) n.toInt :=
        fun h => hnot n (heq h ▸ h)
      refine ⟨fun n => iff_of_false ?_ (hnone n), fun _ => htrim.nan hnot⟩
      exact fun h => hnot n ((htrim.integer_iff n).mp h)

/-- A no-break space before a digit. -/
theorem not_decodesAs_nbsp :
    integer.decode ['\u00a0', '5'] = .ok (.integer 5) ∧
      ¬DecodesAs ['\u00a0', '5'] (Text.trimBy Text.isAsciiBlank ['\u00a0', '5']) := by
  have hdecode : integer.decode ['\u00a0', '5'] = .ok (.integer 5) := rfl
  refine ⟨hdecode, fun h => ?_⟩
  rcases (h.integer_iff 5).mp hdecode with ⟨hempty, -⟩ | hspells
  · exact absurd hempty (by decide)
  · have := hspells.isBlank '\u00a0' (by decide)
    exact absurd this (by decide)

end Decoder
end Routing
