/-
# Values survive being written

The decoders of strings, truth values, integers and days, and lists of these to any depth, read
back whatever they write (`WellTyped.exists_encode`).  Every value that they read is of the kind
that they write (`decode_wellTyped`), so decoding, encoding and decoding again gives the same
value as decoding once.
-/

import Routing.Decoder
import Routing.Proofs.Calendar.Date
import Routing.Proofs.Decimal.Integer
import Routing.Proofs.Json.Strings
import Routing.Proofs.Text.Splitting
import Routing.Proofs.Traversal

namespace Routing
namespace Decoder

/-- A decoder of strings, truth values, integers or days, or of lists of these. -/
def IsPlain : Decoder → Prop
  | string => True
  | boolean => True
  | integer => True
  | date => True
  | array element => element.IsPlain
  | _ => False

/-- A value of the kind that a plain decoder writes.  Among integers NaN stands for a number that
could not be read. -/
inductive WellTyped : Decoder → Value → Prop where
  /-- A text. -/
  | string (s : Text) : WellTyped .string (.string s)
  /-- A truth value. -/
  | boolean (b : Bool) : WellTyped .boolean (.boolean b)
  /-- An integer. -/
  | integer (n : Int64) : WellTyped .integer (.integer n)
  /-- No integer. -/
  | nan : WellTyped .integer (.float .nan)
  /-- A day. -/
  | date (d : Date) : WellTyped .date (.date d)
  /-- A list of values of one kind. -/
  | array {element : Decoder} {items : List Value} :
    (∀ item ∈ items, WellTyped element item) → WellTyped (.array element) (.array items)

/-- What a plain decoder reads is of its kind. -/
theorem decode_wellTyped {d : Decoder} (h : d.IsPlain) {s : Text} {v : Value}
    (hdecode : d.decode s = .ok v) : d.WellTyped v := by
  induction d generalizing s v with
  | string => cases hdecode; exact .string s
  | boolean => cases hdecode; exact .boolean _
  | integer =>
    cases hdecode
    unfold decodeInteger
    dsimp only
    split
    · exact .integer 0
    · split
      · exact .integer _
      · exact .nan
  | date =>
    rw [decode, decodeDate] at hdecode
    split at hdecode
    · cases hdecode; exact .date _
    · split at hdecode
      · cases hdecode; exact .date _
      · cases hdecode
  -- The values of a list are those that its items were read as.
  | array element ih =>
    rw [decode] at hdecode
    split at hdecode
    case h_1 items hitems =>
      cases hvalues : items.mapM fun item => element.decode (itemText item) with
      | error e => rw [hvalues] at hdecode; cases hdecode
      | ok values =>
        rw [hvalues] at hdecode
        cases hdecode
        refine .array fun value hvalue => ?_
        obtain ⟨item, -, hitem⟩ := exists_of_mem_right (mapM_eq_ok_iff.mp hvalues) hvalue
        exact ih h hitem
    case h_2 => cases hdecode
  | float => exact h.elim
  | datetime => exact h.elim
  | custom d => exact h.elim

/-- An integer is read back as it was written. -/
theorem decodeInteger_renderInt64 (n : Int64) :
    decodeInteger (Number.renderInt64 n) = .integer n := by
  have hblank : ∀ c ∈ Number.renderInt64 n, Text.isBlank c = false :=
    fun _ => Number.isBlank_of_mem_renderInt64
  have hne : Number.renderInt64 n ≠ [] := Number.decimalInt_ne_nil _
  simp only [decodeInteger, Text.trim, Text.trimBy_eq_self hblank, List.isEmpty_iff, hne, if_false,
    Number.int64?_renderInt64]

/-- The text has a character other than a point. -/
def HasNonPoint (s : Text) : Prop := ∃ c ∈ s, c ≠ '.'

/-- **A written value is read as it was.**  Only a string may be empty or consist of points. -/
theorem WellTyped.exists_encode {d : Decoder} {v : Value} (h : d.WellTyped v) :
    ∃ s, d.encode v = .ok s ∧ d.decode s = .ok v ∧ (v = .string s ∨ HasNonPoint s) := by
  induction h with
  | string s => exact ⟨s, rfl, rfl, .inl rfl⟩
  | boolean b =>
    refine ⟨_, rfl, ?_, .inr ?_⟩
    · cases b <;> rfl
    · cases b <;> exact ⟨_, List.mem_cons_self, by decide⟩
  | integer n =>
    refine ⟨_, rfl, congrArg _ (decodeInteger_renderInt64 n), .inr ?_⟩
    obtain ⟨c, s, hs⟩ := List.exists_cons_of_ne_nil (Number.decimalInt_ne_nil n.toInt)
    have hc : c ∈ Text.decimalInt n.toInt := hs ▸ List.mem_cons_self
    -- The first character is a digit or the sign.
    refine ⟨c, hc, ?_⟩
    rcases Number.isIntegerChar_of_mem_decimalInt hc with hc | rfl
    · exact fun heq => absurd (heq ▸ hc) (by decide)
    · decide
  | nan => exact ⟨"NaN".toList, rfl, rfl, .inr ⟨'N', by decide, by decide⟩⟩
  | date d =>
    refine ⟨_, rfl, ?_, .inr ?_⟩
    · simp only [decode, decodeDate, Date.parse?_render]
    · exact ⟨'-', by simp [Date.render, CivilDay.render], by decide⟩
  | @array element items _ ih =>
    obtain ⟨texts, htexts⟩ := exists_forall₂ ih
    have hencode : items.mapM element.encode = .ok texts :=
      mapM_eq_ok_iff.mpr (htexts.imp fun _ _ h => h.1)
    have hdecode : (texts.map Json.string).mapM (fun item => element.decode (itemText item)) =
        .ok items := by
      rw [mapM_eq_ok_iff, List.forall₂_map_left_iff]
      exact (htexts.imp fun _ _ h => h.2.1).flip
    refine ⟨Json.renderStrings texts, ?_, ?_, .inr ⟨'[', List.mem_cons_self, by decide⟩⟩
    · rw [encode, hencode]
      rfl
    · rw [decode, Json.parse?_renderStrings]
      dsimp only
      rw [hdecode]
      rfl

/-- What was read is written as it was read, or not with points alone, and read again. -/
theorem exists_encode_of_decode {d : Decoder} (hd : d.IsPlain) {s : Text} {v : Value}
    (h : d.decode s = .ok v) :
    ∃ s', d.encode v = .ok s' ∧ d.decode s' = .ok v ∧ (s' = s ∨ HasNonPoint s') := by
  have htyped := decode_wellTyped hd h
  obtain ⟨s', hencode, hdecode, hpoints⟩ := htyped.exists_encode
  refine ⟨s', hencode, hdecode, hpoints.imp_left ?_⟩
  rintro rfl
  cases htyped
  exact Value.string.inj (Except.ok.inj h).symm

/-- **The values of a plain decoder's kind are those that it writes and reads back.**  One direction
says that nothing of the kind is lost, not the extreme integers nor the years of more than four
digits, also inside of lists in lists.  The other one says that there is nothing that a decoder
would write and read back besides. -/
theorem wellTyped_iff_survives {d : Decoder} (hd : d.IsPlain) (v : Value) :
    d.WellTyped v ↔ ∃ s, d.encode v = .ok s ∧ d.decode s = .ok v := by
  constructor
  · intro h
    obtain ⟨s, hencode, hdecode, -⟩ := h.exists_encode
    exact ⟨s, hencode, hdecode⟩
  · rintro ⟨s, -, hdecode⟩
    exact decode_wellTyped hd hdecode

/-- The first day that there is, and the first one of the year 10000, two lists deep. -/
theorem wellTyped_iff_survives_days :
    ∃ d : Decoder, ∃ v : Value, d = array (array date) ∧
      v = .array [.array [.date ⟨⟨-262143, 1, 1⟩, by decide⟩, .date ⟨⟨10000, 1, 1⟩, by decide⟩],
        .array []] ∧
      d.IsPlain ∧ d.WellTyped v ∧ ∃ s, d.encode v = .ok s ∧ d.decode s = .ok v := by
  have htyped : (array (array date)).WellTyped (.array
      [.array [.date ⟨⟨-262143, 1, 1⟩, by decide⟩, .date ⟨⟨10000, 1, 1⟩, by decide⟩], .array []]) :=
    .array (List.forall_mem_cons.mpr
      ⟨.array (List.forall_mem_cons.mpr ⟨.date _, List.forall_mem_cons.mpr ⟨.date _, by simp⟩⟩),
        List.forall_mem_cons.mpr ⟨.array (by simp), by simp⟩⟩)
  have hplain : (array (array date)).IsPlain := trivial
  exact ⟨_, _, rfl, rfl, hplain, htyped, (wellTyped_iff_survives hplain _).mp htyped⟩

end Decoder
end Routing
