/-
# Instants without what is below a millisecond

An instant that was read is one that a clock shows (`isOnClock_of_parse?`): its nanoseconds run
beyond a second only in the last second of a minute.  Its rendering is read again just if its year
has four digits, and then as the instant without what is below a millisecond
(`IsOnClock.parse?_render`); in a leap second too.

The year that counts is the one in UTC.  An offset may take an instant out of the years of four
digits, and a day may be outside of them from the beginning.
-/

import Routing.Proofs.Calendar.Instant

namespace Routing
namespace Instant

/-- An instant that a clock shows: only the last second of a minute may be a leap second. -/
def IsOnClock (t : Instant) : Prop :=
  t.nanoseconds < 2000000000 ∧ (1000000000 ≤ t.nanoseconds → t.seconds % 60 = 59)

/-- The year of the instant, in UTC, has four digits and no sign. -/
def HasShortYear (t : Instant) : Prop := 0 ≤ t.day.year ∧ t.day.year ≤ 9999

instance (t : Instant) : Decidable t.HasShortYear := inferInstanceAs (Decidable (_ ∧ _))

/-- The instant without what is below a millisecond. -/
def truncated (t : Instant) : Instant :=
  { t with nanoseconds := t.nanoseconds / 1000000 * 1000000 }

section Reading

/-- A fraction is less than a second. -/
theorem lt_of_fraction? {s rest : Text} {n : Nat} (h : fraction? s = some (n, rest)) :
    n < 1000000000 := by
  unfold fraction? at h
  split at h
  case h_1 behind =>
    dsimp only at h
    split at h
    case isTrue => cases h
    case isFalse =>
      generalize hcounted : (behind.takeWhile fun c => '0' ≤ c && c ≤ '9').take 9 = counted at h
      obtain ⟨value, hvalue, heq⟩ := Option.map_eq_some_iff.mp h
      obtain rfl := (Prod.mk.inj heq).1
      have hlength : counted.length ≤ 9 := by
        rw [← hcounted]
        exact List.length_take_le _ _
      calc value * 10 ^ (9 - counted.length)
          < 10 ^ counted.length * 10 ^ (9 - counted.length) :=
            Nat.mul_lt_mul_of_pos_right (Text.lt_of_digitsValue? hvalue) (Nat.pow_pos (by decide))
        _ = 1000000000 := by rw [← Nat.pow_add, Nat.add_sub_cancel' hlength]
  case h_2 =>
    obtain rfl := (Prod.mk.inj (Option.some.inj h)).1
    decide

/-- An offset is a whole number of minutes. -/
theorem dvd_of_offset? {s : Text} {offset : Int} (h : offset? s = some offset) : 60 ∣ offset := by
  unfold offset? at h
  split at h
  case h_1 => exact Option.some.inj h ▸ Int.dvd_zero 60
  case h_2 => exact Option.some.inj h ▸ Int.dvd_zero 60
  case h_3 =>
    split at h
    case isTrue =>
      split at h
      case h_1 => cases h
      case h_2 =>
        split at h
        case h_1 =>
          split at h
          case isTrue =>
            obtain rfl := Option.some.inj h
            split <;> omega
          case isFalse => cases h
        case h_2 => cases h
    case isFalse => cases h
  case h_4 => cases h

/-- Only the last second of a minute is a leap second. -/
theorem timeOfDay?_spec {hour minute second nanoseconds seconds n : Nat}
    (hlt : nanoseconds < 1000000000)
    (h : timeOfDay? hour minute second nanoseconds = some (seconds, n)) :
    n < 2000000000 ∧ (1000000000 ≤ n → seconds % 60 = 59) := by
  obtain ⟨-, heq⟩ := Option.ite_none_right_eq_some.mp h
  obtain ⟨rfl, rfl⟩ := Prod.mk.inj (Option.some.inj heq)
  split <;> omega

/-- **What is read is shown by a clock.** -/
theorem isOnClock_of_parse? {s : Text} {t : Instant} (h : parse? s = some t) : t.IsOnClock := by
  simp only [parse?, Option.bind_eq_bind, Option.bind_eq_some_iff, Option.some.injEq] at h
  obtain ⟨_, -, _, -, _, -, _, -, _, -, _, -, ⟨nanoseconds, _⟩, hfraction, offset, hoffset, date, -,
    ⟨seconds, n⟩, htime, rfl⟩ := h
  obtain ⟨hlt, hleap⟩ := timeOfDay?_spec (lt_of_fraction? hfraction) htime
  have hminutes := dvd_of_offset? hoffset
  refine ⟨hlt, fun hlow => ?_⟩
  have := hleap hlow
  dsimp only
  omega

/-- Midnight is shown by a clock. -/
theorem isOnClock_midnight (d : Date) : (midnight d).IsOnClock := by
  simp [IsOnClock, midnight]

end Reading

/-- **A rendered instant is read without what is below a millisecond**, just if its year has four
digits. -/
theorem IsOnClock.parse?_render {t : Instant} (h : t.IsOnClock) :
    parse? t.render = if t.HasShortYear then some t.truncated else none := by
  obtain ⟨hlt, hleap⟩ := h
  obtain ⟨hnumber, hinYear⟩ := day_spec t
  have hsecond := secondOfDay_eq t
  rw [render_eq t, parse?_render_append hinYear.lt_hundred.1 hinYear.lt_hundred.2,
    parseTime?_timeText (by omega) (by omega) (by omega)]
  by_cases hyear : 0 ≤ t.day.year ∧ t.day.year ≤ 9999
  · have hvalid : t.day.Valid := hinYear.valid hyear.1 hyear.2
    have hshort : t.HasShortYear := hyear
    rw [if_pos hyear, if_pos hshort, if_pos ⟨hvalid, by omega⟩, hnumber]
    -- The leap second is written as the second 60, and read as the second 59 again.
    refine congrArg some ?_
    rw [truncated, Instant.mk.injEq]
    constructor
    · omega
    · split <;> omega
  · have hlong : ¬t.HasShortYear := hyear
    rw [if_neg hyear, if_neg hlong]

end Instant
end Routing
