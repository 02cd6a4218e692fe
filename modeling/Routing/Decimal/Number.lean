/-
# Numbers as text

How a segment spells a number.  Integers of 64 bits take an optional sign and
decimal digits.  Floating-point numbers add a point, with digits on at least one
side of it, an exponent, and the words for the infinities and NaN in either case.

A floating-point number is written with the fewest digits that read back, always
without exponent and without a point when it is an integer.
-/

import Routing.Decimal.Shortest

namespace Routing
namespace Number

/-- A sign at the front, true for `-`, and the text behind it. -/
def sign : Text → Bool × Text
  | '-' :: s => (true, s)
  | '+' :: s => (false, s)
  | s => (false, s)

/-- The integer that `s` spells: an optional sign and at least one digit. -/
def int? (s : Text) : Option Int :=
  let (negative, digits) := sign s
  if digits.isEmpty then none
  else (Text.digitsValue? digits).map fun n => if negative then -n else n

/-- The integers of 64 bits lie from the opposite of this one to below it. -/
def int64Limit : Int := 0x8000000000000000

/-- The integer that `s` spells when 64 bits hold it. -/
def int64? (s : Text) : Option Int64 :=
  match int? s with
  | some n => if -int64Limit ≤ n ∧ n < int64Limit then some (Int64.ofInt n) else none
  | none => none

/-- An integer in decimal. -/
def renderInt64 (n : Int64) : Text := Text.decimalInt n.toInt

/-- A character is an ASCII digit. -/
def isDigit (c : Char) : Bool := '0' ≤ c && c ≤ '9'

/-- The exponent that `s` spells: nothing, or `e`, an optional sign and digits. -/
def exponent? (s : Text) : Option Int :=
  match s with
  | [] => some 0
  | c :: rest => if c = 'e' ∨ c = 'E' then int? rest else none

/-- The magnitude that `s` spells: digits with a point among them, and an
exponent. -/
def magnitude? (negative : Bool) (s : Text) : Option Binary64 :=
  let whole := s.takeWhile isDigit
  let rest := s.drop whole.length
  let (places, rest) := match rest with
    | '.' :: more => (more.takeWhile isDigit, more.dropWhile isDigit)
    | _ => ([], rest)
  if whole.isEmpty && places.isEmpty then none
  else
    match Text.digitsValue? (whole ++ places), exponent? rest with
    | some digits, some e => some (Binary64.ofDecimal negative digits (e - places.length))
    | _, _ => none

/-- The floating-point number that `s` spells. -/
def binary64? (s : Text) : Option Binary64 :=
  let (negative, s) := sign s
  let word := String.ofList (s.map Char.toLower)
  if word == "inf" || word == "infinity" then some (.infinite negative)
  else if word == "nan" then some .nan
  else magnitude? negative s

/-- A floating-point number as a segment spells it. -/
def renderBinary64 : Binary64 → Text
  | .nan => "NaN".toList
  | .infinite negative => (if negative then ['-'] else []) ++ "Infinity".toList
  | .finite negative r =>
    (if negative then ['-'] else []) ++ (Decimal.shortest .up r).positional

end Number
end Routing
