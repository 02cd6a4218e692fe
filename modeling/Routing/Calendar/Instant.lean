/-
# Instants

A point in time by its whole seconds since 1 January 1970 UTC and its
nanoseconds.  A leap second is part of the second before it, whose nanoseconds
then run up to two seconds.

An instant is read from the profile of ISO 8601 in RFC 3339, with any offset,
and written in UTC with milliseconds.
-/

import Routing.Calendar.Date

namespace Routing

/-- A point in time. -/
structure Instant where
  /-- The whole seconds since 1 January 1970 UTC. -/
  seconds : Int
  /-- The nanoseconds from there; 10⁹ and more within a leap second. -/
  nanoseconds : Nat
deriving DecidableEq

namespace Instant

/-- The day, in UTC. -/
def day (t : Instant) : CivilDay := CivilDay.ofDayNumber (t.seconds.fdiv 86400)

/-- The seconds of the day, in UTC. -/
def secondOfDay (t : Instant) : Nat := (t.seconds.fmod 86400).toNat

/-- The midnight, in UTC, at which the day begins. -/
def midnight (d : Date) : Instant := ⟨86400 * d.civil.dayNumber, 0⟩

/-- The instant as `YYYY-MM-DDTHH:MM:SS.mmmZ`, where a leap second is the
second 60. -/
def render (t : Instant) : Text :=
  let leap := t.nanoseconds / 1000000000
  let two := Text.decimalPadded 2
  t.day.render ++ 'T' :: two (t.secondOfDay / 3600) ++ ':' :: two (t.secondOfDay / 60 % 60) ++
    ':' :: two (t.secondOfDay % 60 + leap) ++
    '.' :: Text.decimalPadded 3 (t.nanoseconds % 1000000000 / 1000000) ++ ['Z']

/-- A number of exactly `width` digits and the text behind it. -/
def fixed? (width : Nat) (s : Text) : Option (Nat × Text) :=
  let digits := s.take width
  if digits.length = width then (Text.digitsValue? digits).map fun n => (n, s.drop width) else none

/-- A separator and a number of two digits behind it. -/
def field? (separator : Char → Bool) (s : Text) : Option (Nat × Text) :=
  match s with
  | c :: rest => if separator c then fixed? 2 rest else none
  | [] => none

/-- A fraction of a second in nanoseconds, if a point follows.  Digits after the
ninth do not count. -/
def fraction? (s : Text) : Option (Nat × Text) :=
  match s with
  | '.' :: rest =>
    let digits := rest.takeWhile fun c => '0' ≤ c && c ≤ '9'
    let counted := digits.take 9
    if digits.isEmpty then none
    else (Text.digitsValue? counted).map fun n =>
      (n * Nat.pow 10 (9 - counted.length), rest.drop digits.length)
  | _ => some (0, s)

/-- An offset from UTC in seconds: `Z`, or a sign, hours and minutes.  It ends
the text. -/
def offset? (s : Text) : Option Int :=
  match s with
  | ['Z'] => some 0
  | ['z'] => some 0
  | c :: rest =>
    if c = '+' ∨ c = '-' ∨ c = '\u2212' then
      match fixed? 2 rest with
      | none => none
      | some (hours, rest) =>
        match field? (· == ':') rest with
        | some (minutes, []) =>
          if hours ≤ 23 ∧ minutes ≤ 59 then
            let seconds : Int := 3600 * hours + 60 * minutes
            some (if c = '+' then seconds else -seconds)
          else none
        | _ => none
    else none
  | [] => none

/-- The time of day in seconds and nanoseconds.  The second 60 is the leap
second behind 59. -/
def timeOfDay? (hour minute second nanoseconds : Nat) : Option (Nat × Nat) :=
  if hour ≤ 23 ∧ minute ≤ 59 ∧ second ≤ 60 then
    some (3600 * hour + 60 * minute + min second 59,
      if second = 60 then 1000000000 + nanoseconds else nanoseconds)
  else none

/-- The instant that `s` spells: a date with a year of four digits, `T` or a
blank, a time and an offset. -/
def parse? (s : Text) : Option Instant := do
  let hyphen := (· == '-')
  let colon := (· == ':')
  let (year, s) ← fixed? 4 s
  let (month, s) ← field? hyphen s
  let (dayOfMonth, s) ← field? hyphen s
  let (hour, s) ← field? (fun c => c == 'T' || c == 't' || c == ' ') s
  let (minute, s) ← field? colon s
  let (second, s) ← field? colon s
  let (nanoseconds, s) ← fraction? s
  let offset ← offset? s
  let date ← Date.ofCivil? ⟨year, month, dayOfMonth⟩
  let (seconds, nanoseconds) ← timeOfDay? hour minute second nanoseconds
  some ⟨86400 * date.civil.dayNumber + seconds - offset, nanoseconds⟩

end Instant
end Routing
