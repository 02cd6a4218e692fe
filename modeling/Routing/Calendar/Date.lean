/-
# Calendar days

The days of the proleptic Gregorian calendar whose year lies between -262143 and
262142, and their count from 1 January 1970.  The year 0 precedes the year 1.

`Date.dayNumber` counts a date; `CivilDay.ofDayNumber` is its inverse on all
days, by the cycles of 400, 100, 4 and 1 years that the leap days follow.
-/

import Routing.Text.Basic

namespace Routing

/-- A year, a month and a day of the month. -/
structure CivilDay where
  /-- The year, which may be zero or negative. -/
  year : Int
  /-- The month, from 1. -/
  month : Nat
  /-- The day of the month, from 1. -/
  day : Nat
deriving DecidableEq, Repr

namespace CivilDay

/-- The year has a leap day. -/
def isLeap (year : Int) : Bool := year % 4 == 0 && (year % 100 != 0 || year % 400 == 0)

/-- The lengths of the months of a year, in order. -/
def monthLengths (leap : Bool) : List Nat :=
  [31, if leap then 29 else 28, 31, 30, 31, 30, 31, 31, 30, 31, 30, 31]

/-- The number of days of a month; zero when there is no such month. -/
def daysInMonth (year : Int) (month : Nat) : Nat :=
  match month with
  | 0 => 0
  | m + 1 => (monthLengths (isLeap year))[m]?.getD 0

/-- The month and the day of the month of the `n`th day, from 0, of months with
the given lengths, the first of which is `month`. -/
def walkMonths (month n : Nat) : List Nat → Nat × Nat
  | [] => (month, n + 1)
  | length :: rest =>
    if n < length then (month, n + 1) else walkMonths (month + 1) (n - length) rest

/-- The day with the given number of days since 1 January 1970. -/
def ofDayNumber (n : Int) : CivilDay :=
  let n := n + 719162
  let cycles := n.fdiv 146097
  let n := (n.fmod 146097).toNat
  let centuries := min 3 (n / 36524)
  let n := n - 36524 * centuries
  let olympiads := n / 1461
  let n := n % 1461
  let years := min 3 (n / 365)
  let n := n - 365 * years
  let year : Int := 400 * cycles + 100 * centuries + 4 * olympiads + years + 1
  let (month, day) := walkMonths 1 n (monthLengths (isLeap year))
  ⟨year, month, day⟩

/-- The number of days from 1 January 1970 to the day. -/
def dayNumber (d : CivilDay) : Int :=
  let y := d.year - 1
  let before : Nat := ((monthLengths (isLeap d.year)).take (d.month - 1)).foldl (· + ·) 0
  365 * y + y.fdiv 4 - y.fdiv 100 + y.fdiv 400 + before + d.day - 719163

/-- The day exists and its year is in range. -/
def Valid (d : CivilDay) : Prop :=
  -262143 ≤ d.year ∧ d.year ≤ 262142 ∧ 1 ≤ d.month ∧ d.month ≤ 12 ∧ 1 ≤ d.day ∧
    d.day ≤ daysInMonth d.year d.month

instance (d : CivilDay) : Decidable d.Valid := by unfold Valid; infer_instance

/-- The year with at least four digits, and with a sign outside of 0 to 9999. -/
def renderYear (year : Int) : Text :=
  if 0 ≤ year ∧ year ≤ 9999 then Text.decimalPadded 4 year.natAbs
  else (if year < 0 then '-' else '+') :: Text.decimalPadded 4 year.natAbs

/-- Year, month and day joined by hyphens. -/
def render (d : CivilDay) : Text :=
  renderYear d.year ++ '-' :: Text.decimalPadded 2 d.month ++ '-' :: Text.decimalPadded 2 d.day

end CivilDay

/-- A day of the calendar. -/
structure Date where
  /-- The day by its numbers. -/
  civil : CivilDay
  /-- The day exists. -/
  valid : civil.Valid
deriving DecidableEq

namespace Date

/-- The day with these numbers if there is one. -/
def ofCivil? (d : CivilDay) : Option Date :=
  if h : d.Valid then some ⟨d, h⟩ else none

/-- The day as `YYYY-MM-DD`. -/
def render (d : Date) : Text := d.civil.render

/-- The digits at the front, at most `limit` of them, as a number, and the text
behind them; at least one digit has to be there. -/
def digits? (limit : Nat) (s : Text) : Option (Nat × Text) :=
  let run := (s.take limit).takeWhile fun c => '0' ≤ c && c ≤ '9'
  if run.isEmpty then none
  else (Text.digitsValue? run).map fun n => (n, s.drop run.length)

/-- A year: up to four digits, or a sign and any number of digits. -/
def year? (s : Text) : Option (Int × Text) :=
  match s with
  | '-' :: rest => (digits? rest.length rest).map fun (n, rest) => (-n, rest)
  | '+' :: rest => (digits? rest.length rest).map fun (n, rest) => (n, rest)
  | _ => (digits? 4 s).map fun (n, rest) => (n, rest)

/-- A hyphen and a number of one or two digits, with blanks before the number. -/
def part? (s : Text) : Option (Nat × Text) :=
  match s with
  | '-' :: rest => digits? 2 (rest.dropWhile Text.isBlank)
  | _ => none

/-- The day that `s` spells: a year, a month and a day joined by hyphens, each
with or without leading zeros, and blanks in front of any of them. -/
def parse? (s : Text) : Option Date :=
  match year? (s.dropWhile Text.isBlank) with
  | none => none
  | some (year, s) =>
    match part? s with
    | none => none
    | some (month, s) =>
      match part? s with
      | some (day, []) => ofCivil? ⟨year, month, day⟩
      | _ => none

end Date
end Routing
