/-
# Writing again what was read

The decoders that are built in write values of other kinds than those that they read: an integer
as a float, a float without fraction as an integer, an instant as a day, and all of these in lists.
What is read of such a text is written again (`exists_encode_again`), and with the same text just
if the value was kept (`Keeps`).  Two kinds of values are not: the negative zero among integers,
and an integer among floats whose float is written with other digits, which takes more than 53 bits
(`keeps_integer_of_lt`).  A value that a decoder reads is kept.

There is one lemma for each decoder that takes values of two kinds, and it goes through the kinds:
the value of its own kind comes back, the value of the other kind comes back as one of its own.  In
lists the items are written again one by one.
-/

import Routing.Proofs.Calendar.Instant
import Routing.Proofs.Decimal.Whole
import Routing.Proofs.Decoder.RoundTrip

namespace Routing
namespace Decoder

/-- A decoder that a template can name. -/
def IsBuiltIn : Decoder → Prop
  | array element => element.IsBuiltIn
  | custom _ => False
  | _ => True

/-- No negative zero is given for an integer, and an integer that is given for a float has the digits
with which the float nearest to it is written. -/
def Keeps : Decoder → Value → Prop
  | integer, .float x => x ≠ Binary64.zero true
  | float, .integer n => Number.renderBinary64 (Binary64.ofInt n.toInt) = Number.renderInt64 n
  | array element, .array items => ∀ item ∈ items, element.Keeps item
  | _, _ => True

/-- An integer of at most 53 bits is kept. -/
theorem keeps_integer_of_lt {n : Int64} (h : n.toInt.natAbs < 2 ^ 53) : float.Keeps (.integer n) :=
  Number.renderBinary64_ofInt h

/-- What is read of the text of the value `v` is the value `v'`, which is written again, with the
same text just if `v` is kept, and is kept itself. -/
def WritesAgain (d : Decoder) (v : Value) (s : Text) (v' : Value) : Prop :=
  ∃ s', d.encode v' = .ok s' ∧ (s' = s ↔ d.Keeps v) ∧ d.Keeps v'

/-- The same text is written again for a value that was kept. -/
theorem WritesAgain.of_eq {d : Decoder} {v v' : Value} {s : Text} (h : d.encode v' = .ok s)
    (hv : d.Keeps v) (hv' : d.Keeps v') : d.WritesAgain v s v' :=
  ⟨s, h, iff_of_true rfl hv, hv'⟩

/-- What an integer is read as is written again. -/
theorem integer_writesAgain {v v' : Value} {s : Text} (hencode : integer.encode v = .ok s)
    (hdecode : decodeInteger s = v') : integer.WritesAgain v s v' := by
  subst hdecode
  cases v with
  | integer n =>
    obtain rfl := Except.ok.inj hencode
    rw [decodeInteger_renderInt64]
    exact .of_eq rfl trivial trivial
  | float x =>
    rw [encode] at hencode
    split at hencode
    case isFalse => cases hencode
    case isTrue hintegral =>
      obtain rfl := Except.ok.inj hencode
      -- A float that is written for an integer is NaN, the negative zero or has the text of an
      -- integer.
      rcases Number.exists_renderInt64_eq hintegral with rfl | rfl | ⟨n, hn⟩
      · have hnan : Binary64.nan ≠ Binary64.zero true := by decide
        exact .of_eq rfl hnan hnan
      · -- The sign of the zero is written, but not read.
        have hread : decodeInteger (Number.renderBinary64 (Binary64.zero true)) = .integer 0 := by
          rw [Number.renderBinary64_negativeZero]
          rfl
        rw [hread]
        exact ⟨_, rfl, iff_of_false (Number.renderInt64_ne_negativeZero 0) (absurd rfl), trivial⟩
      · rw [hn, decodeInteger_renderInt64]
        refine .of_eq rfl ?_ trivial
        rintro rfl
        exact Number.renderInt64_ne_negativeZero n hn.symm
  | string | boolean | date | datetime | array => cases hencode

/-- What a float is read as is written again. -/
theorem float_writesAgain {v v' : Value} {s : Text} (hencode : float.encode v = .ok s)
    (hdecode : decodeFloat s = v') : float.WritesAgain v s v' := by
  subst hdecode
  cases v with
  | float x =>
    obtain rfl := Except.ok.inj hencode
    rw [decodeFloat_renderBinary64]
    exact .of_eq rfl trivial trivial
  | integer n =>
    obtain rfl := Except.ok.inj hencode
    rw [decodeFloat_renderInt64]
    exact ⟨_, rfl, Iff.rfl, trivial⟩
  | string | boolean | date | datetime | array => cases hencode

/-- What a day is read as is written again; an instant has been written as its day. -/
theorem date_writesAgain {v v' : Value} {s : Text} (hencode : date.encode v = .ok s)
    (hdecode : decodeDate s = .ok v') : date.WritesAgain v s v' := by
  cases v with
  | date d =>
    obtain rfl := Except.ok.inj hencode
    rw [decodeDate, Date.parse?_render] at hdecode
    obtain rfl := Except.ok.inj hdecode
    exact .of_eq rfl trivial trivial
  | datetime t =>
    obtain rfl := Except.ok.inj hencode
    obtain ⟨hmonth, hday⟩ := t.day_spec.2.lt_hundred
    have hparse := Date.parse?_render_append hmonth hday []
    rw [List.append_nil, if_pos rfl, Date.ofCivil?] at hparse
    rw [decodeDate, hparse, Instant.parse?_render_day hmonth hday] at hdecode
    split at hdecode
    case h_1 d hd =>
      obtain rfl := Except.ok.inj hdecode
      split at hd
      case isTrue =>
        obtain rfl := Option.some.inj hd
        exact .of_eq rfl trivial trivial
      case isFalse => cases hd
    case h_2 => cases hdecode
  | string | boolean | integer | float | array => cases hencode

/-- What an instant is read as is written again. -/
theorem datetime_writesAgain {v v' : Value} {s : Text} (hencode : datetime.encode v = .ok s)
    (hdecode : decodeDatetime s = .ok v') : datetime.WritesAgain v s v' := by
  cases v with
  | datetime t =>
    obtain rfl := Except.ok.inj hencode
    rw [decodeDatetime, Instant.date_parse?_render] at hdecode
    split at hdecode
    case h_1 t' ht' =>
      obtain rfl := Except.ok.inj hdecode
      exact .of_eq (congrArg _ (Instant.render_of_parse?_render ht')) trivial trivial
    case h_2 => cases hdecode
  | string | boolean | integer | float | date | array => cases hencode

/-- Items that are written again one by one are written again. -/
theorem exists_items_again {d : Decoder} {items values : List Value} {texts : List Text}
    (hencode : List.Forall₂ (fun item s => d.encode item = .ok s) items texts)
    (hdecode : List.Forall₂ (fun s value => d.decode s = .ok value) texts values)
    (h : ∀ {item s value}, d.encode item = .ok s → d.decode s = .ok value →
      d.WritesAgain item s value) :
    ∃ texts', List.Forall₂ (fun value s => d.encode value = .ok s) values texts' ∧
      (texts' = texts ↔ ∀ item ∈ items, d.Keeps item) ∧ ∀ value ∈ values, d.Keeps value := by
  induction hencode generalizing values with
  | nil =>
    cases hdecode
    exact ⟨[], .nil, by simp, by simp⟩
  | cons hitem _ ih =>
    cases hdecode with
    | cons hvalue hdecode =>
      obtain ⟨s', hs', hkeeps, hkept⟩ := h hitem hvalue
      obtain ⟨texts', htexts', hkeepsAll, hkeptAll⟩ := ih hdecode
      refine ⟨s' :: texts', .cons hs' htexts', ?_, List.forall_mem_cons.mpr ⟨hkept, hkeptAll⟩⟩
      rw [List.cons.injEq, hkeeps, hkeepsAll, List.forall_mem_cons]

/-- **What is read of a written value is written again**, with the same text just if the value was
kept. -/
theorem exists_encode_again {d : Decoder} (hd : d.IsBuiltIn) {v v' : Value} {s : Text}
    (hencode : d.encode v = .ok s) (hdecode : d.decode s = .ok v') : d.WritesAgain v s v' := by
  induction d generalizing v v' s with
  | string =>
    obtain rfl := Except.ok.inj hdecode
    exact .of_eq rfl (by cases v <;> trivial) trivial
  | boolean =>
    cases v with
    | boolean b =>
      obtain rfl := Except.ok.inj hencode
      obtain rfl := Except.ok.inj hdecode
      exact .of_eq (by cases b <;> rfl) trivial trivial
    | string | integer | float | date | datetime | array => cases hencode
  | integer => exact integer_writesAgain hencode (Except.ok.inj hdecode)
  | float => exact float_writesAgain hencode (Except.ok.inj hdecode)
  | date => exact date_writesAgain hencode hdecode
  | datetime => exact datetime_writesAgain hencode hdecode
  -- The items are written, read and written again one by one.
  | array element ih =>
    cases v with
    | array items =>
      rw [encode] at hencode
      cases htexts : items.mapM element.encode with
      | error e => rw [htexts] at hencode; cases hencode
      | ok texts =>
        rw [htexts] at hencode
        obtain rfl := Except.ok.inj hencode
        rw [decode, Json.parse?_renderStrings] at hdecode
        dsimp only at hdecode
        cases hvalues : (texts.map Json.string).mapM fun item =>
            element.decode (itemText item) with
        | error e => rw [hvalues] at hdecode; cases hdecode
        | ok values =>
          rw [hvalues] at hdecode
          obtain rfl := Except.ok.inj hdecode
          rw [mapM_eq_ok_iff, List.forall₂_map_left_iff] at hvalues
          obtain ⟨texts', htexts', hkeeps, hkept⟩ :=
            exists_items_again (mapM_eq_ok_iff.mp htexts) hvalues (ih hd)
          refine ⟨Json.renderStrings texts', ?_, ?_, hkept⟩
          · rw [encode, mapM_eq_ok_iff.mpr htexts']
            rfl
          · exact ⟨fun heq => hkeeps.mp (Json.renderStrings_injective heq),
              fun h => congrArg _ (hkeeps.mpr h)⟩
    | string | boolean | integer | float | date | datetime => cases hencode
  | custom d => exact hd.elim

end Decoder
end Routing
