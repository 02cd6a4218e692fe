/-
# Rereading what was written of a datetime

An instant is written in UTC with milliseconds.  What is written of an instant that was read is read
again just if its year has four digits in UTC, and without what is below a millisecond
(`decode_datetime_render`).  The other values of the decoders that are built in are read again as
they are, so a value that was read is written as a text that is read again just if the years of its
instants have four digits (`exists_writtenAs`).
-/

import Routing.Proofs.Calendar.Milliseconds
import Routing.Proofs.Decoder.Rewriting

namespace Routing
namespace Decoder

section Instants

variable {s : Text} {v : Value} {t : Instant}

/-- What is read of a datetime is an instant that a clock shows. -/
theorem exists_of_decodeDatetime (h : decodeDatetime s = .ok v) :
    ∃ t, v = .datetime t ∧ t.IsOnClock := by
  rw [decodeDatetime] at h
  split at h
  case h_1 t ht =>
    obtain rfl := Except.ok.inj h
    exact ⟨t, rfl, Instant.isOnClock_of_parse? ht⟩
  case h_2 =>
    split at h
    case h_1 d _ =>
      obtain rfl := Except.ok.inj h
      exact ⟨Instant.midnight d, rfl, Instant.isOnClock_midnight d⟩
    case h_2 => cases h

/-- A rendered instant is no day, so it is read as an instant or not at all. -/
theorem decodeDatetime_render (h : t.IsOnClock) :
    decodeDatetime t.render = if t.HasShortYear then .ok (.datetime t.truncated)
      else .error (.datetime t.render) := by
  rw [decodeDatetime, h.parse?_render, Instant.date_parse?_render]
  by_cases hyear : t.HasShortYear
  · rw [if_pos hyear, if_pos hyear]
  · rw [if_neg hyear, if_neg hyear]

/-- **What was read of a datetime is written, and read again without what is below a millisecond**
just if its year has four digits. -/
theorem decode_datetime_render (h : datetime.decode s = .ok v) :
    ∃ t, v = .datetime t ∧ datetime.encode v = .ok t.render ∧
      datetime.decode t.render = if t.HasShortYear then .ok (.datetime t.truncated)
        else .error (.datetime t.render) := by
  obtain ⟨t, rfl, ht⟩ := exists_of_decodeDatetime h
  exact ⟨t, rfl, rfl, decodeDatetime_render ht⟩

end Instants

/-- The instants that are given for datetimes have years of four digits. -/
def HasShortYears : Decoder → Value → Prop
  | datetime, .datetime t => t.HasShortYear
  | array element, .array items => ∀ item ∈ items, element.HasShortYears item
  | _, _ => True

/-- The value with the instants that are given for datetimes without what is below a millisecond. -/
def truncate : Decoder → Value → Value
  | datetime, .datetime t => .datetime t.truncated
  | array element, .array items => .array (items.map element.truncate)
  | _, v => v

/-- A text that is written for the value that a segment was read as. -/
structure WrittenAs (d : Decoder) (s : Text) (v : Value) (s' : Text) : Prop where
  /-- The value is written so. -/
  encode : d.encode v = .ok s'
  /-- The text is that of the segment, or does not consist of points. -/
  points : s' = s ∨ HasNonPoint s'
  /-- It is read as the value without what is below a millisecond, if the years have four digits. -/
  decode_iff : ∀ w, d.decode s' = .ok w ↔ d.HasShortYears v ∧ w = d.truncate v

/-- A text that is read as the value that it was written for. -/
theorem WrittenAs.of_eq {d : Decoder} {s s' : Text} {v : Value} (hencode : d.encode v = .ok s')
    (hpoints : s' = s ∨ HasNonPoint s') (hdecode : d.decode s' = .ok v) (hyears : d.HasShortYears v)
    (htruncate : d.truncate v = v) : d.WrittenAs s v s' := by
  refine ⟨hencode, hpoints, fun w => ?_⟩
  rw [hdecode, htruncate, Except.ok.injEq]
  exact ⟨fun heq => ⟨hyears, heq.symm⟩, fun h => h.2.symm⟩

/-- Values of plain decoders have no instants. -/
theorem IsPlain.hasShortYears {d : Decoder} (h : d.IsPlain) (v : Value) : d.HasShortYears v := by
  induction d generalizing v with
  | array element ih =>
    cases v with
    | array items => exact fun item _ => ih h item
    | string | boolean | integer | float | date | datetime => trivial
  | datetime => exact h.elim
  | string | boolean | integer | float | date | custom => cases v <;> trivial

/-- The values of a plain decoder hold no instants to be truncated. -/
theorem IsPlain.truncate_eq {d : Decoder} (h : d.IsPlain) (v : Value) : d.truncate v = v := by
  induction d generalizing v with
  | array element ih =>
    cases v with
    | array items =>
      have hitems : items.map element.truncate = items := List.map_id'' (ih h) items
      rw [truncate, hitems]
    | string | boolean | integer | float | date | datetime => rfl
  | datetime => exact h.elim
  | string | boolean | integer | float | date | custom => cases v <;> rfl

/-- What a plain decoder has read is written, and read again as it is. -/
theorem IsPlain.exists_writtenAs {d : Decoder} (hd : d.IsPlain) {s : Text} {v : Value}
    (h : d.decode s = .ok v) : ∃ s', d.WrittenAs s v s' := by
  obtain ⟨s', hencode, hdecode, hpoints⟩ := exists_encode_of_decode hd h
  exact ⟨s', .of_eq hencode hpoints hdecode (hd.hasShortYears v) (hd.truncate_eq v)⟩

/-- A float is read again as it is. -/
theorem float_writtenAs (s : Text) (x : Binary64) :
    float.WrittenAs s (.float x) (Number.renderBinary64 x) :=
  .of_eq rfl (.inr (Number.exists_ne_point_of_renderBinary64 x))
    (congrArg _ (decodeFloat_renderBinary64 x)) trivial rfl

/-- An instant on the clock is written in UTC. -/
theorem datetime_writtenAs {s : Text} {t : Instant} (h : t.IsOnClock) :
    datetime.WrittenAs s (.datetime t) t.render := by
  refine ⟨rfl, .inr ⟨'T', by simp [Instant.render], by decide⟩, fun w => ?_⟩
  rw [decode, decodeDatetime_render h]
  split
  case isTrue hyear =>
    rw [Except.ok.injEq]
    exact ⟨fun heq => ⟨hyear, heq.symm⟩, fun h => h.2.symm⟩
  case isFalse hyear => exact iff_of_false (by rintro ⟨⟩) fun h => hyear h.1

/-- A list of texts that are written for the items of a list. -/
theorem array_writtenAs {element : Decoder} {s : Text} {values : List Value} {texts : List Text}
    (h : List.Forall₂ (fun value s' => ∃ s, element.WrittenAs s value s') values texts) :
    (array element).WrittenAs s (.array values) (Json.renderStrings texts) := by
  have hencode : values.mapM element.encode = .ok texts :=
    mapM_eq_ok_iff.mpr (h.imp fun _ _ ⟨_, h⟩ => h.encode)
  -- The items are read one by one, so each of them has to have short years.
  have hdecode (results : List Value) :
      (texts.map Json.string).mapM (fun item => element.decode (itemText item)) = .ok results ↔
        (∀ value ∈ values, element.HasShortYears value) ∧
          results = values.map element.truncate := by
    rw [mapM_eq_ok_iff, List.forall₂_map_left_iff]
    exact forall₂_iff_map (h.imp fun _ _ ⟨_, h⟩ => h.decode_iff) results
  refine ⟨?_, .inr ⟨'[', List.mem_cons_self, by decide⟩, fun w => ?_⟩
  · rw [encode, hencode]
    rfl
  · rw [decode, Json.parse?_renderStrings]
    dsimp only
    constructor
    · intro hw
      cases hresults : (texts.map Json.string).mapM fun item => element.decode (itemText item) with
      | error e => rw [hresults] at hw; cases hw
      | ok results =>
        rw [hresults] at hw
        obtain ⟨hyears, rfl⟩ := (hdecode results).mp hresults
        exact ⟨hyears, (Except.ok.inj hw).symm⟩
    · rintro ⟨hyears, rfl⟩
      rw [(hdecode _).mpr ⟨hyears, rfl⟩]
      rfl

/-- **What was read is written as a text that is read again** just if the years of its instants have
four digits. -/
theorem exists_writtenAs {d : Decoder} (hd : d.IsBuiltIn) {s : Text} {v : Value}
    (h : d.decode s = .ok v) : ∃ s', d.WrittenAs s v s' := by
  induction d generalizing s v with
  | string => exact IsPlain.exists_writtenAs (d := string) trivial h
  | boolean => exact IsPlain.exists_writtenAs (d := boolean) trivial h
  | integer => exact IsPlain.exists_writtenAs (d := integer) trivial h
  | date => exact IsPlain.exists_writtenAs (d := date) trivial h
  | float =>
    obtain ⟨x, hx⟩ : ∃ x, decodeFloat s = .float x := by
      unfold decodeFloat
      dsimp only
      split
      · exact ⟨_, rfl⟩
      · exact ⟨_, rfl⟩
    obtain rfl := Except.ok.inj h
    rw [hx]
    exact ⟨_, float_writtenAs s x⟩
  | datetime =>
    obtain ⟨t, rfl, ht⟩ := exists_of_decodeDatetime h
    exact ⟨t.render, datetime_writtenAs ht⟩
  -- Each item was read, so each is written; the list is written from these texts.
  | array element ih =>
    rw [decode] at h
    split at h
    case h_1 items hitems =>
      cases hvalues : items.mapM fun item => element.decode (itemText item) with
      | error e => rw [hvalues] at h; cases h
      | ok values =>
        rw [hvalues] at h
        obtain rfl := Except.ok.inj h
        have hwritten : ∀ value ∈ values, ∃ s', ∃ s, element.WrittenAs s value s' := by
          intro value hvalue
          obtain ⟨item, -, hitem⟩ := exists_of_mem_right (mapM_eq_ok_iff.mp hvalues) hvalue
          obtain ⟨s', hs'⟩ := ih hd hitem
          exact ⟨s', _, hs'⟩
        obtain ⟨texts, htexts⟩ := exists_forall₂ hwritten
        exact ⟨_, array_writtenAs htexts⟩
    case h_2 => cases h
  | custom d => exact hd.elim

end Decoder
end Routing
