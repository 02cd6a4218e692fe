/-
# Reading JSON numbers

A number is kept as an integer when 64 bits hold it and it has neither point nor
exponent.  Any other number is floating point, and not always the nearest one to
what is written: digits are collected into 64 bits, those that do not fit are
dropped, and the sum is then scaled by powers of ten with one rounding for each
step.  A number beyond the range of the format is refused.
-/

import Routing.Json.Basic

namespace Routing
namespace Json
namespace Number

/-- The integers that the collected digits may reach. -/
def significandLimit : Nat := 0x10000000000000000

/-- Collects digits behind those of `n` until the next one would not fit: the
number, how many digits were collected, and the digits that are left. -/
def collect (n : Nat) : Text → Nat × Nat × Text
  | [] => (n, 0, [])
  | c :: digits =>
    let next := 10 * n + (c.toNat - 48)
    if next < significandLimit then
      let (m, count, rest) := collect next digits
      (m, count + 1, rest)
    else (n, 0, c :: digits)

/-- The product of two magnitudes, rounded. -/
def multiply (a b : Nat) : Binary64 :=
  Binary64.round false (Binary64.units a * Binary64.units b)
    (Binary64.unitsOfOne * Binary64.unitsOfOne)

/-- The quotient of two magnitudes, rounded. -/
def divide (a b : Nat) : Binary64 := Binary64.round false (Binary64.units a) (Binary64.units b)

/-- The rank of the power of ten that is a factor of one step. -/
def powerRank (e : Nat) : Nat :=
  match Binary64.ofDecimal false 1 e with
  | .finite _ r => r
  | _ => 0

/-- The magnitude of rank `r` scaled by `10 ^ exponent`, by at most 308 places a
step; `none` beyond the finite numbers.  Three steps down leave zero. -/
def scale (r : Nat) (exponent : Int) : Nat → Option Binary64
  | 0 => some (Binary64.ofRank false r)
  | fuel + 1 =>
    let places := exponent.natAbs
    if places ≤ 308 then
      if 0 ≤ exponent then
        match multiply r (powerRank places) with
        | .finite s m => some (.finite s m)
        | _ => none
      else some (divide r (powerRank places))
    else if r = 0 then some (Binary64.zero false)
    else if 0 ≤ exponent then none
    else
      match divide r (powerRank 308) with
      | .finite _ m => scale m (exponent + 308) fuel
      | _ => none

/-- The floating-point number of the collected digits `n` and the exponent. -/
def real? (negative : Bool) (n : Nat) (exponent : Int) : Option Number :=
  match Binary64.ofInt n with
  | .finite _ r =>
    (scale r exponent 4).map fun x => .real (if negative then x.negate else x)
  | _ => none

/-- The exponent that `s` begins with, zero when there is none. -/
def exponent? (s : Text) : Option (Int × Text) :=
  match s with
  | c :: rest =>
    if c = 'e' ∨ c = 'E' then
      let (negative, rest) := match rest with
        | '+' :: rest => (false, rest)
        | '-' :: rest => (true, rest)
        | _ => (false, rest)
      let digits := rest.takeWhile fun c => '0' ≤ c && c ≤ '9'
      if digits.isEmpty then none
      else (Text.digitsValue? digits).map fun n =>
        ((if negative then -n else n : Int), rest.drop digits.length)
    else some (0, s)
  | [] => some (0, s)

/-- An integer without point and exponent. -/
def ofDigits (negative : Bool) (n : Nat) : Option Number :=
  if !negative then some (.integer n)
  else if 0 < n ∧ n ≤ 0x8000000000000000 then some (.integer (-n))
  else real? true n 0

/-- The number behind its sign, and the text behind it. -/
def behindSign? (negative : Bool) (s : Text) : Option (Number × Text) :=
  let isDigit (c : Char) := '0' ≤ c && c ≤ '9'
  let whole := s.takeWhile isDigit
  let rest := s.drop whole.length
  if whole.isEmpty || (whole.head? == some '0' && 1 < whole.length) then none
  else
    let (n, _, dropped) := collect 0 whole
    let (places, rest', pointed) := match rest with
      | '.' :: more => (more.takeWhile isDigit, more.dropWhile isDigit, true)
      | _ => ([], rest, false)
    if pointed && places.isEmpty then none
    else
      match exponent? rest' with
      | none => none
      | some (e, after) =>
        if !pointed && dropped.isEmpty && after.length = rest'.length then
          (ofDigits negative n).map (·, after)
        else
          let (n, count, _) := collect n places
          (real? negative n (e + dropped.length - count)).map (·, after)

/-- The number that `s` begins with, and the text behind it. -/
def read? (s : Text) : Option (Number × Text) :=
  match s with
  | '-' :: rest => behindSign? true rest
  | _ => behindSign? false s

end Number
end Json
end Routing
