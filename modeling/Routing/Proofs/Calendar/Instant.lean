/-
# Writing an instant again

An instant is written in UTC with milliseconds, and a written instant may be read as an instant
again: not beyond four digits of the year, and not if its seconds are more than 60.  If it is read,
what is read is written as it stands (`render_of_parse?_render`), although it may have lost some
nanoseconds.

A written day is not read as an instant, and a written instant not as a day.

The writer fills up every field but the year with zeros, so the reader takes a known number of
digits for it and what follows does not matter (`fixed?_decimalPadded`).
-/

import Routing.Calendar.Instant
import Routing.Proofs.Calendar.Date
import Routing.Proofs.Calendar.DayNumber

namespace Routing
namespace Instant

section Fields

variable {n : Nat} {c : Char}

/-- A number that is filled up to a width is read from as many digits. -/
theorem fixed?_decimalPadded {width : Nat} (hwidth : 0 < width) (h : n < 10 ^ width) (rest : Text) :
    fixed? width (Text.decimalPadded width n ++ rest) = some (n, rest) := by
  have hlength := Date.length_decimalPadded_of_lt hwidth h
  rw [fixed?, List.take_left' hlength, List.drop_left' hlength, if_pos hlength,
    Text.digitsValue?_decimalPadded]
  rfl

/-- Digits do not begin with another character. -/
theorem digitsValue?_cons_eq_none (hc : Text.digitValue? c = none) (s : Text) :
    Text.digitsValue? (c :: s) = none := by
  have hnone (s : Text) : s.foldl (fun acc c => acc.bind fun v =>
      (Text.digitValue? c).map (10 * v + ·)) none = none := by
    induction s with
    | nil => rfl
    | cons c s ih => exact ih
  rw [Text.digitsValue?, List.foldl_cons, hc]
  exact hnone s

/-- A separator and two digits are read as a field. -/
theorem field?_decimalPadded {separator : Char → Bool} (hc : separator c) (h : n < 100)
    (rest : Text) : field? separator (c :: (Text.decimalPadded 2 n ++ rest)) = some (n, rest) := by
  rw [field?, if_pos hc, fixed?_decimalPadded (by decide) h]

/-- Three digits behind a point are milliseconds. -/
theorem fraction?_decimalPadded (h : n < 1000) :
    fraction? ('.' :: (Text.decimalPadded 3 n ++ ['Z'])) = some (n * 1000000, ['Z']) := by
  have hlength : (Text.decimalPadded 3 n).length = 3 :=
    Date.length_decimalPadded_of_lt (by decide) (by omega)
  have hdigits : (Text.decimalPadded 3 n ++ ['Z']).takeWhile (fun c => '0' ≤ c && c ≤ '9') =
      Text.decimalPadded 3 n := by
    have hall : ∀ c ∈ Text.decimalPadded 3 n, ('0' ≤ c && c ≤ '9') = true := fun c hc => by
      simpa [Text.IsDigit] using Text.isDigit_of_mem_decimalPadded hc
    rw [List.takeWhile_append_of_pos hall]
    exact List.append_nil _
  have hcounted : (Text.decimalPadded 3 n).take 9 = Text.decimalPadded 3 n :=
    List.take_of_length_le (by omega)
  simp only [fraction?, hdigits, hcounted, List.isEmpty_iff, Text.decimalPadded_ne_nil, if_false,
    Text.digitsValue?_decimalPadded, Option.map_some, hlength, Nat.reduceSub,
    List.drop_left' hlength]

end Fields

/-- The instant of a day and of the rest of a text. -/
def parseTime? (d : CivilDay) (s : Text) : Option Instant := do
  let colon := (· == ':')
  let (hour, s) ← field? (fun c => c == 'T' || c == 't' || c == ' ') s
  let (minute, s) ← field? colon s
  let (second, s) ← field? colon s
  let (nanoseconds, s) ← fraction? s
  let offset ← offset? s
  let date ← Date.ofCivil? d
  let (seconds, nanoseconds) ← timeOfDay? hour minute second nanoseconds
  some ⟨86400 * date.civil.dayNumber + seconds - offset, nanoseconds⟩

/-- The year of an instant has four digits, and the time follows the day. -/
theorem parse?_render_append {d : CivilDay} (hmonth : d.month < 100) (hday : d.day < 100)
    (rest : Text) :
    parse? (d.render ++ rest) = if 0 ≤ d.year ∧ d.year ≤ 9999 then parseTime? d rest else none := by
  have hrender : d.render ++ rest = CivilDay.renderYear d.year ++ ('-' ::
      (Text.decimalPadded 2 d.month ++ '-' :: (Text.decimalPadded 2 d.day ++ rest))) := by
    simp [CivilDay.render]
  rw [hrender, CivilDay.renderYear]
  split
  case isTrue hyear =>
    have hyear' : ((d.year.natAbs : Nat) : Int) = d.year := by omega
    rw [parse?, fixed?_decimalPadded (by decide) (by omega)]
    simp only [Option.bind_eq_bind, Option.bind_some, field?_decimalPadded, hmonth, hday,
      beq_self_eq_true, hyear']
    rfl
  case isFalse hyear =>
    have hsign : Text.digitValue? (if d.year < 0 then '-' else '+') = none := by
      split <;> decide
    have hnone (s : Text) : fixed? 4 ((if d.year < 0 then '-' else '+') :: s) = none := by
      rw [fixed?, List.take_succ_cons, digitsValue?_cons_eq_none hsign, Option.map_none, ite_self]
    rw [List.cons_append, parse?, hnone]
    rfl

/-- A time of day in UTC as it is written behind a day. -/
def timeText (hour minute second millisecond : Nat) : Text :=
  'T' :: (Text.decimalPadded 2 hour ++ ':' :: (Text.decimalPadded 2 minute ++
    ':' :: (Text.decimalPadded 2 second ++ '.' :: (Text.decimalPadded 3 millisecond ++ ['Z']))))

/-- An instant is written as its day and the time of the day. -/
theorem render_eq (t : Instant) : t.render = t.day.render ++
    timeText (t.secondOfDay / 3600) (t.secondOfDay / 60 % 60)
      (t.secondOfDay % 60 + t.nanoseconds / 1000000000)
      (t.nanoseconds % 1000000000 / 1000000) := by
  simp [render, timeText]

section Times

variable {hour minute second millisecond : Nat}

/-- Digits behind the seconds are no fraction and no offset. -/
theorem offset?_of_isDigit {c : Char} (hc : Text.IsDigit c) (s : Text) :
    offset? (c :: s) = none := by
  unfold offset?
  split
  case h_1 heq => exact absurd ((List.cons.inj heq).1 ▸ hc) (by decide)
  case h_2 heq => exact absurd ((List.cons.inj heq).1 ▸ hc) (by decide)
  case h_3 heq =>
    obtain ⟨rfl, rfl⟩ := List.cons.inj heq
    have hsign : ¬(c = '+' ∨ c = '-' ∨ c = '\u2212') := by
      rintro (rfl | rfl | rfl) <;> exact absurd hc (by decide)
    rw [if_neg hsign]
  case h_4 heq => cases heq

/-- Without a point there is no fraction of a second. -/
theorem fraction?_of_isDigit {c : Char} (hc : Text.IsDigit c) (s : Text) :
    fraction? (c :: s) = some (0, c :: s) := by
  unfold fraction?
  split
  case h_1 heq => exact absurd ((List.cons.inj heq).1 ▸ hc) (by decide)
  case h_2 => rfl

/-- Three digits or more. -/
theorem exists_decimalPadded_eq {n : Nat} (h : 100 ≤ n) :
    ∃ a b c s, Text.decimalPadded 2 n = a :: b :: c :: s ∧ Text.IsDigit c := by
  have hlength : 3 ≤ (Text.decimalPadded 2 n).length := by
    have hpos := List.length_pos_iff.mpr (Text.decimal_ne_nil (n / 10 / 10))
    rw [Text.length_decimalPadded, Text.decimal_of_le (by omega),
      Text.decimal_of_le (n := n / 10) (by omega), List.length_append, List.length_append]
    simp only [List.length_singleton]
    omega
  have hdigits : ∀ c ∈ Text.decimalPadded 2 n, Text.IsDigit c :=
    fun c => Text.isDigit_of_mem_decimalPadded
  match hcons : Text.decimalPadded 2 n, hlength with
  | a :: b :: c :: s, _ => exact ⟨a, b, c, s, rfl, hdigits c (by simp [hcons])⟩

/-- A time whose seconds have three digits is not read. -/
theorem parseTime?_eq_none {d : CivilDay} (hhour : hour ≤ 23) (hminute : minute ≤ 59)
    (hsecond : 100 ≤ second) : parseTime? d (timeText hour minute second millisecond) = none := by
  obtain ⟨a, b, c, s, heq, hc⟩ := exists_decimalPadded_eq hsecond
  have hseconds (rest : Text) : field? (· == ':') (':' :: (a :: b :: c :: s ++ rest)) =
      (Text.digitsValue? [a, b]).map fun n => (n, c :: (s ++ rest)) := rfl
  rw [parseTime?, timeText, field?_decimalPadded (by decide) (by omega)]
  dsimp only [Option.bind_eq_bind, Option.bind_some]
  rw [field?_decimalPadded (by decide) (by omega), heq]
  dsimp only [Option.bind_eq_bind, Option.bind_some]
  rw [hseconds]
  cases Text.digitsValue? [a, b] with
  | none => rfl
  | some n =>
    dsimp only [Option.map_some, Option.bind_some]
    rw [fraction?_of_isDigit hc]
    dsimp only [Option.bind_some]
    rw [offset?_of_isDigit hc]
    rfl

/-- What is read of a written time: at most sixty seconds, of a day that exists. -/
theorem parseTime?_timeText {d : CivilDay} (hhour : hour ≤ 23) (hminute : minute ≤ 59)
    (hmillisecond : millisecond < 1000) :
    parseTime? d (timeText hour minute second millisecond) =
      if d.Valid ∧ second ≤ 60 then
        some ⟨86400 * d.dayNumber + (3600 * hour + 60 * minute + min second 59 : ℕ),
          if second = 60 then 1000000000 + millisecond * 1000000 else millisecond * 1000000⟩
      else none := by
  rcases Nat.lt_or_ge second 100 with hlt | hge
  · rw [parseTime?, timeText, field?_decimalPadded (by decide) (by omega)]
    dsimp only [Option.bind_eq_bind, Option.bind_some]
    rw [field?_decimalPadded (by decide) (by omega)]
    dsimp only [Option.bind_eq_bind, Option.bind_some]
    rw [field?_decimalPadded (by decide) hlt]
    dsimp only [Option.bind_eq_bind, Option.bind_some]
    rw [fraction?_decimalPadded hmillisecond]
    dsimp only [Option.bind_eq_bind, Option.bind_some]
    rw [show offset? ['Z'] = some 0 from rfl]
    dsimp only [Option.bind_eq_bind, Option.bind_some]
    by_cases hvalid : d.Valid
    · have hdate : Date.ofCivil? d = some ⟨d, hvalid⟩ := dif_pos hvalid
      rw [hdate, Option.bind_some, timeOfDay?]
      simp only [hhour, hminute, hvalid, true_and, Int.sub_zero]
      split <;> rfl
    · have hdate : Date.ofCivil? d = none := dif_neg hvalid
      rw [hdate, if_neg fun h => hvalid h.1]
      rfl
  · rw [parseTime?_eq_none hhour hminute hge, if_neg (by omega)]

end Times

/-- The day of an instant is counted in whole days, and is a day of its year. -/
theorem day_spec (t : Instant) :
    t.day.dayNumber = t.seconds / 86400 ∧ t.day.IsInYear := by
  rw [day, Int.fdiv_eq_ediv_of_nonneg _ (by decide)]
  exact CivilDay.ofDayNumber_spec _

/-- The second of the day is what whole days leave. -/
theorem secondOfDay_eq (t : Instant) : t.secondOfDay = (t.seconds % 86400).toNat := by
  rw [secondOfDay, Int.fmod_eq_emod_of_nonneg _ (by decide)]

/-- **What is read of a written instant is written as it stands.**  It may be another instant, as
what is below a millisecond is not written, but its text does not tell them apart. -/
theorem render_of_parse?_render {t t' : Instant} (h : parse? t.render = some t') :
    t'.render = t.render := by
  obtain ⟨hnumber, hinYear⟩ := day_spec t
  have hsecond := secondOfDay_eq t
  rw [render_eq t, parse?_render_append hinYear.lt_hundred.1 hinYear.lt_hundred.2,
    parseTime?_timeText (by omega) (by omega) (by omega)] at h
  split at h
  case isTrue =>
    obtain ⟨⟨-, hsixty⟩, heq⟩ := Option.ite_none_right_eq_some.mp h
    obtain rfl := Option.some.inj heq
    -- What is read is on the same day, so its text differs in the time at most, and that one has
    -- been read as it was written.
    rw [hnumber, render_eq t, render_eq]
    have hday' (seconds nanoseconds : Nat) (hlt : seconds < 86400) :
        day ⟨86400 * (t.seconds / 86400) + seconds, nanoseconds⟩ = t.day := by
      rw [day, day, Int.fdiv_eq_ediv_of_nonneg _ (by decide),
        Int.fdiv_eq_ediv_of_nonneg _ (by decide)]
      congr 1
      dsimp only
      omega
    have hsecond' (seconds nanoseconds : Nat) (hlt : seconds < 86400) :
        secondOfDay ⟨86400 * (t.seconds / 86400) + seconds, nanoseconds⟩ = seconds := by
      rw [secondOfDay_eq]
      dsimp only
      omega
    rw [hday' _ _ (by omega), hsecond' _ _ (by omega)]
    dsimp only
    congr 2
    · omega
    · omega
    · split <;> omega
    · split <;> omega
  case isFalse => cases h

/-- A written day is not read as an instant. -/
theorem parse?_render_day {d : CivilDay} (hmonth : d.month < 100) (hday : d.day < 100) :
    parse? d.render = none := by
  have hread := parse?_render_append hmonth hday []
  rw [List.append_nil] at hread
  rw [hread]
  split <;> rfl

/-- A written instant is not read as a day. -/
theorem date_parse?_render (t : Instant) : Date.parse? t.render = none := by
  have hinYear := (day_spec t).2
  rw [render_eq, Date.parse?_render_append hinYear.lt_hundred.1 hinYear.lt_hundred.2]
  rfl

end Instant
end Routing
