/-
# Counting days back

The day with a number has that number, and it is a day of its year (`ofDayNumber_spec`).  So the
days are told apart by their numbers.  The cycles of 400, 100, 4 and 1 years leave a day of the
year, and the lengths of the months before it leave a day of the month (`exists_walkMonths_eq`).
-/

import Mathlib.Algebra.GroupWithZero.Nat
import Routing.Calendar.Date

namespace Routing
namespace CivilDay

/-- A walk over months ends in one of them, and the days of the months before it and those of the
month make up the days that were to go. -/
theorem exists_walkMonths_eq {lengths : List Nat} {n : Nat} (h : n < lengths.sum) (month : Nat) :
    ∃ i day length, walkMonths month n lengths = (month + i, day) ∧ lengths[i]? = some length ∧
      1 ≤ day ∧ day ≤ length ∧ (lengths.take i).sum + day = n + 1 := by
  induction lengths generalizing month n with
  | nil => exact absurd h (Nat.not_lt_zero n)
  | cons length lengths ih =>
    rw [walkMonths]
    split
    case isTrue hlt => exact ⟨0, n + 1, length, rfl, rfl, by omega, by omega, by simp⟩
    case isFalse hge =>
      rw [List.sum_cons] at h
      obtain ⟨i, day, length', hwalk, hget, hlow, hhigh, hsum⟩ :=
        ih (n := n - length) (by omega) (month + 1)
      refine ⟨i + 1, day, length', ?_, hget, hlow, hhigh, ?_⟩
      · rw [hwalk, Nat.add_assoc, Nat.add_comm 1 i]
      · rw [List.take_succ_cons, List.sum_cons]
        omega

/-- The months of a year have 365 days, or 366 in a leap year. -/
theorem sum_monthLengths (leap : Bool) : (monthLengths leap).sum = if leap then 366 else 365 := by
  cases leap <;> rfl

/-- The days of a month are written with two digits. -/
theorem monthLengths_lt (leap : Bool) : ∀ length ∈ monthLengths leap, length < 100 := by
  cases leap <;> decide

/-- The month is one of the twelve, and the day is one of the month. -/
def IsInYear (d : CivilDay) : Prop :=
  1 ≤ d.month ∧ d.month ≤ 12 ∧ 1 ≤ d.day ∧ d.day ≤ daysInMonth d.year d.month

/-- A day of a year of four digits is valid. -/
theorem IsInYear.valid {d : CivilDay} (h : d.IsInYear) (hlow : 0 ≤ d.year) (hhigh : d.year ≤ 9999) :
    d.Valid :=
  ⟨by omega, by omega, h⟩

/-- Months and days have two digits. -/
theorem IsInYear.lt_hundred {d : CivilDay} (h : d.IsInYear) : d.month < 100 ∧ d.day < 100 := by
  obtain ⟨hfirst, hlast, -, hday⟩ := h
  obtain ⟨m, hm⟩ := Nat.exists_eq_add_one_of_ne_zero (show d.month ≠ 0 by omega)
  have hlt : m < (monthLengths (isLeap d.year)).length := by
    simp only [monthLengths, List.length_cons, List.length_nil]
    omega
  have hlength := monthLengths_lt _ _ (List.getElem_mem hlt)
  rw [hm, daysInMonth, List.getElem?_eq_getElem hlt, Option.getD_some] at hday
  omega

/-- Of four parts of equal length, the last one may be longer by one. -/
theorem min_div_spec {length n part rest : Nat} (hlength : 0 < length) (hn : n < 4 * length + 1)
    (hpart : min 3 (n / length) = part) (hrest : n - length * part = rest) :
    part ≤ 3 ∧ n = length * part + rest ∧ (rest < length ∨ part = 3 ∧ rest = length) := by
  have hdiv := Nat.div_add_mod n length
  have hmod := Nat.mod_lt n hlength
  subst hrest
  rcases Nat.lt_or_ge 3 (n / length) with hlt | hge
  · obtain rfl : 3 = part := by omega
    have : length * 4 ≤ length * (n / length) := Nat.mul_le_mul_left length hlt
    omega
  · obtain rfl : n / length = part := by omega
    omega

/-- The cycles of a day, and the day of its year. -/
theorem exists_cycles (n : Int) :
    ∃ (cycles : Int) (centuries olympiads years days : Nat),
      centuries ≤ 3 ∧ olympiads ≤ 24 ∧ years ≤ 3 ∧
      n + 719162 = 146097 * cycles + 36524 * centuries + 1461 * olympiads + 365 * years + days ∧
      (days < 365 ∨ days = 365 ∧ years = 3 ∧ (olympiads ≠ 24 ∨ centuries = 3)) ∧
      ofDayNumber n =
        ⟨400 * cycles + 100 * centuries + 4 * olympiads + years + 1,
          (walkMonths 1 days (monthLengths
            (isLeap (400 * cycles + 100 * centuries + 4 * olympiads + years + 1)))).1,
          (walkMonths 1 days (monthLengths
            (isLeap (400 * cycles + 100 * centuries + 4 * olympiads + years + 1)))).2⟩ := by
  have hmod := Int.fmod_nonneg_of_pos (n + 719162) (show (0 : Int) < 146097 by decide)
  have hlt := Int.fmod_lt_of_pos (n + 719162) (show (0 : Int) < 146097 by decide)
  have hdiv := Int.mul_fdiv_add_fmod (n + 719162) 146097
  rw [ofDayNumber]
  dsimp only
  generalize (n + 719162).fdiv 146097 = cycles at *
  obtain ⟨m, hm⟩ := Int.eq_ofNat_of_zero_le hmod
  rw [hm] at hlt hdiv
  rw [hm, Int.toNat_natCast]
  -- The quotients alone would be 4 on the last day of a cycle, which belongs to its last century or
  -- year.
  generalize hcenturies : min 3 (m / 36524) = centuries
  generalize hrest : m - 36524 * centuries = rest
  generalize hyears : min 3 (rest % 1461 / 365) = years
  generalize hdays : rest % 1461 - 365 * years = days
  have hcenturiesSpec := min_div_spec (by decide) (by omega) hcenturies hrest
  have hyearsSpec := min_div_spec (by decide) (by omega) hyears hdays
  clear hcenturies hrest hyears hdays
  exact ⟨cycles, centuries, rest / 1461, years, days, hcenturiesSpec.1, by omega, hyearsSpec.1,
    by omega, by omega, rfl⟩

/-- The days of the years before a year. -/
theorem daysBefore_eq (cycles : Int) {centuries olympiads years : Nat}
    (hcenturies : centuries ≤ 3) (holympiads : olympiads ≤ 24) (hyears : years ≤ 3) (y : Int)
    (hy : y = 400 * cycles + 100 * centuries + 4 * olympiads + years) :
    365 * y + y.fdiv 4 - y.fdiv 100 + y.fdiv 400 =
      146097 * cycles + 36524 * centuries + 1461 * olympiads + 365 * years := by
  rw [Int.fdiv_eq_ediv_of_nonneg _ (by decide), Int.fdiv_eq_ediv_of_nonneg _ (by decide),
    Int.fdiv_eq_ediv_of_nonneg _ (by decide)]
  omega

/-- The day of the year is one of its days. -/
theorem lt_sum_monthLengths (cycles : Int) {centuries olympiads years days : Nat}
    (hdays : days < 365 ∨ days = 365 ∧ years = 3 ∧ (olympiads ≠ 24 ∨ centuries = 3))
    (holympiads : olympiads ≤ 24) :
    days < (monthLengths
      (isLeap (400 * cycles + 100 * centuries + 4 * olympiads + years + 1))).sum := by
  rw [sum_monthLengths]
  split
  case isTrue => omega
  case isFalse hleap =>
    rcases hdays with hlt | ⟨-, hyears, hlast⟩
    · exact hlt
    · refine absurd ?_ hleap
      simp only [isLeap, Bool.and_eq_true, Bool.or_eq_true, beq_iff_eq, bne_iff_ne]
      omega

/-- **The day with a number has that number**, and it is a day of its year. -/
theorem ofDayNumber_spec (n : Int) :
    (ofDayNumber n).dayNumber = n ∧ (ofDayNumber n).IsInYear := by
  obtain ⟨cycles, centuries, olympiads, years, days, hcenturies, holympiads, hyears, hn, hdays,
    heq⟩ := exists_cycles n
  have hlt := lt_sum_monthLengths cycles hdays holympiads
  have hbefore := daysBefore_eq cycles hcenturies holympiads hyears _ rfl
  rw [heq]
  generalize hyear : 400 * cycles + 100 * (centuries : Int) + 4 * olympiads + years = y at *
  obtain ⟨i, day, length, hwalk, hget, hlow, hhigh, hsum⟩ := exists_walkMonths_eq hlt 1
  have hi : i < 12 := (List.getElem?_eq_some_iff.mp hget).1
  rw [hwalk]
  dsimp only
  have hfold : ((monthLengths (isLeap (y + 1))).take i).foldl (· + ·) 0 =
      ((monthLengths (isLeap (y + 1))).take i).sum := List.sum_eq_foldl.symm
  refine ⟨?_, Nat.le_add_right 1 i, show 1 + i ≤ 12 by omega, hlow, ?_⟩
  · simp only [dayNumber, Int.add_sub_cancel, Nat.add_sub_cancel_left, hfold]
    omega
  · rw [Nat.add_comm 1 i, daysInMonth, hget, Option.getD_some]
    exact hhigh

end CivilDay
end Routing
