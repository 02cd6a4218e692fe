/-
# Reading days back

A day is written as year, month and day joined by hyphens.  Each part is read up to the next
hyphen, so what is written is read as that day (`parse?_render`), whatever its year.

A year of more than four digits is written with a sign, as is one before the year zero, and the
sign is how the reader knows to take as many digits as there are.
-/

import Routing.Proofs.Calendar.DayNumber
import Routing.Proofs.Text.Digits

namespace Routing
namespace Date

/-- The digits of a part, which end at the limit or where no digit follows. -/
theorem digits?_append {limit n : Nat} {digits rest : Text}
    (hdigits : ∀ c ∈ digits, Text.IsDigit c) (hne : digits ≠ [])
    (hvalue : Text.digitsValue? digits = some n) (hlength : digits.length ≤ limit)
    (hend : digits.length = limit ∨ ∀ c ∈ rest.head?, ¬Text.IsDigit c) :
    digits? limit (digits ++ rest) = some (n, rest) := by
  have hall : ∀ c ∈ digits, ('0' ≤ c && c ≤ '9') = true := fun c hc => by
    simpa [Text.IsDigit] using hdigits c hc
  have hrun : ((digits ++ rest).take limit).takeWhile (fun c => '0' ≤ c && c ≤ '9') = digits := by
    rw [List.take_append, List.take_of_length_le hlength, List.takeWhile_append_of_pos hall]
    refine List.append_right_eq_self.mpr ?_
    rcases hend with hend | hend
    · rw [hend, Nat.sub_self, List.take_zero, List.takeWhile_nil]
    · cases rest with
      | nil => simp
      | cons c rest =>
        have hc : ¬Text.IsDigit c := hend c rfl
        cases limit - digits.length with
        | zero => rfl
        | succ k =>
          rw [List.take_succ_cons, List.takeWhile_cons]
          simp only [Text.IsDigit] at hc
          simp only [Bool.and_eq_true, decide_eq_true_eq, hc, if_false]
  simp only [digits?, hrun, List.isEmpty_iff, hne, if_false, hvalue, Option.map_some,
    List.drop_left]

/-- A number below a power of ten fits into as many digits. -/
theorem length_decimalPadded_of_lt {width n : Nat} (hwidth : 0 < width) (h : n < 10 ^ width) :
    (Text.decimalPadded width n).length = width := by
  obtain ⟨k, rfl⟩ := Nat.exists_eq_add_one_of_ne_zero (Nat.ne_of_gt hwidth)
  have := Text.length_decimal_le h
  rw [Text.length_decimalPadded]
  omega

/-- A year without sign. -/
theorem year?_of_isDigit {c : Char} (h : Text.IsDigit c) (s : Text) :
    year? (c :: s) = (digits? 4 (c :: s)).map fun (n, rest) => ((n : Int), rest) := by
  unfold year?
  split
  case h_1 heq => exact absurd ((List.cons.inj heq).1 ▸ h) (by decide)
  case h_2 heq => exact absurd ((List.cons.inj heq).1 ▸ h) (by decide)
  case h_3 => rfl

/-- The year is read up to the hyphen behind it. -/
theorem year?_renderYear (year : Int) (s : Text) :
    year? (CivilDay.renderYear year ++ '-' :: s) = some (year, '-' :: s) := by
  have hdigits {n : Nat} : ∀ c ∈ Text.decimalPadded 4 n, Text.IsDigit c :=
    fun c hc => Text.isDigit_of_mem_decimalPadded hc
  have hread {limit n : Nat} (hlength : (Text.decimalPadded 4 n).length ≤ limit) :
      digits? limit (Text.decimalPadded 4 n ++ '-' :: s) = some (n, '-' :: s) :=
    digits?_append hdigits (Text.decimalPadded_ne_nil _ _) (Text.digitsValue?_decimalPadded _ _)
      hlength (.inr (by rintro c ⟨⟩; decide))
  rw [CivilDay.renderYear]
  split
  -- A year of four digits is read without a sign, and as far as four digits go.
  case isTrue h =>
    have hlength : (Text.decimalPadded 4 year.natAbs).length = 4 :=
      length_decimalPadded_of_lt (by decide) (by omega)
    have hread := hread (Nat.le_of_eq hlength)
    cases hyear : Text.decimalPadded 4 year.natAbs with
    | nil => exact absurd hyear (Text.decimalPadded_ne_nil _ _)
    | cons c digits =>
      rw [hyear] at hread
      rw [List.cons_append, year?_of_isDigit (hdigits c (hyear ▸ List.mem_cons_self)),
        ← List.cons_append, hread]
      exact congrArg some (Prod.ext (show (year.natAbs : Int) = year by omega) rfl)
  case isFalse h =>
    -- Any other year has a sign, behind which digits are read as long as there are some.
    have hminus (rest : Text) :
        year? ('-' :: rest) = (digits? rest.length rest).map fun (n, rest) => (-n, rest) := rfl
    have hplus (rest : Text) :
        year? ('+' :: rest) = (digits? rest.length rest).map fun (n, rest) => (n, rest) := rfl
    split
    case isTrue hneg =>
      rw [List.cons_append, hminus, hread (by simp)]
      exact congrArg some (Prod.ext (show -(year.natAbs : Int) = year by omega) rfl)
    case isFalse hpos =>
      rw [List.cons_append, hplus, hread (by simp)]
      exact congrArg some (Prod.ext (show (year.natAbs : Int) = year by omega) rfl)

/-- A month or a day of the month. -/
theorem part?_decimalPadded {n : Nat} (h : n < 100) (s : Text) :
    part? ('-' :: Text.decimalPadded 2 n ++ s) = some (n, s) := by
  have hdigits : ∀ c ∈ Text.decimalPadded 2 n, Text.IsDigit c :=
    fun c hc => Text.isDigit_of_mem_decimalPadded hc
  have hlength : (Text.decimalPadded 2 n).length = 2 :=
    length_decimalPadded_of_lt (by decide) (by omega)
  have hread : digits? 2 (Text.decimalPadded 2 n ++ s) = some (n, s) :=
    digits?_append hdigits (Text.decimalPadded_ne_nil _ _) (Text.digitsValue?_decimalPadded _ _)
      (Nat.le_of_eq hlength) (.inl hlength)
  show digits? 2 ((Text.decimalPadded 2 n ++ s).dropWhile Text.isBlank) = _
  cases hpart : Text.decimalPadded 2 n with
  | nil => exact absurd hpart (Text.decimalPadded_ne_nil _ _)
  | cons c digits =>
    have hc := Text.isBlank_of_isDigit (hdigits c (hpart ▸ List.mem_cons_self))
    rw [List.cons_append, List.dropWhile_cons_of_neg (by simp [hc]), ← List.cons_append, ← hpart,
      hread]

/-- What a day is written with. -/
def IsDateChar (c : Char) : Prop := Text.IsDigit c ∨ c = '-' ∨ c = '+'

/-- A day is written in digits, hyphens and a sign. -/
theorem isDateChar_of_mem_render {d : CivilDay} {c : Char} (h : c ∈ d.render) : IsDateChar c := by
  have hdigits {width n : Nat} (h : c ∈ Text.decimalPadded width n) : IsDateChar c :=
    .inl (Text.isDigit_of_mem_decimalPadded h)
  have hyear (h : c ∈ CivilDay.renderYear d.year) : IsDateChar c := by
    rw [CivilDay.renderYear] at h
    split at h
    · exact hdigits h
    · rcases List.mem_cons.mp h with h | h
      · split at h
        · exact .inr (.inl h)
        · exact .inr (.inr h)
      · exact hdigits h
  simp only [CivilDay.render, List.mem_append, List.mem_cons] at h
  rcases h with (h | h | h) | h | h
  · exact hyear h
  · exact .inr (.inl h)
  · exact hdigits h
  · exact .inr (.inl h)
  · exact hdigits h

/-- None of these is a blank, so trimming leaves a day alone. -/
theorem isBlank_of_isDateChar {c : Char} (h : IsDateChar c) : Text.isBlank c = false := by
  rcases h with h | rfl | rfl
  · exact Text.isBlank_of_isDigit h
  · decide
  · decide

/-- A day is written as something. -/
theorem render_ne_nil (d : CivilDay) : d.render ≠ [] := by simp [CivilDay.render]

/-- A year, a month and a day are read as they are written, and nothing may follow. -/
theorem parse?_render_append {d : CivilDay} (hmonth : d.month < 100) (hday : d.day < 100)
    (rest : Text) : parse? (d.render ++ rest) = if rest = [] then ofCivil? d else none := by
  have hyear := year?_renderYear d.year (Text.decimalPadded 2 d.month ++
    '-' :: (Text.decimalPadded 2 d.day ++ rest))
  have hmonth := part?_decimalPadded hmonth ('-' :: (Text.decimalPadded 2 d.day ++ rest))
  have hday := part?_decimalPadded hday rest
  have hrender : d.render ++ rest = CivilDay.renderYear d.year ++ '-' ::
      (Text.decimalPadded 2 d.month ++ '-' :: (Text.decimalPadded 2 d.day ++ rest)) := by
    simp [CivilDay.render]
  have hblank : (d.render ++ rest).dropWhile Text.isBlank = d.render ++ rest := by
    obtain ⟨c, s, hcons⟩ := List.exists_cons_of_ne_nil (render_ne_nil d)
    have hc := isBlank_of_isDateChar (isDateChar_of_mem_render (hcons ▸ List.mem_cons_self))
    rw [hcons, List.cons_append, List.dropWhile_cons, hc]
    rfl
  rw [parse?, hblank, hrender, hyear]
  dsimp only
  rw [List.cons_append] at hmonth hday
  rw [hmonth]
  dsimp only
  rw [hday]
  cases rest with
  | nil => rfl
  | cons c rest => rfl

/-- **A written day is read as it was.** -/
theorem parse?_render (d : Date) : parse? d.render = some d := by
  have hinYear : d.civil.IsInYear := d.valid.2.2
  have hread := parse?_render_append hinYear.lt_hundred.1 hinYear.lt_hundred.2 []
  rw [List.append_nil, if_pos rfl] at hread
  exact hread.trans (dif_pos d.valid)

end Date
end Routing
