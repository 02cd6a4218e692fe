/-
# The shortest decimal

The decimal with the fewest digits that lies closer to a double-precision number
than to any other, and of several of that length the one closest to the number.
The search is exact: for one digit, two digits and so on it tests the two
neighbours of the number among the decimals of that length.

A number may lie halfway between its two neighbours; `Tie` says which one is
taken then.
-/

import Routing.Text.Basic
import Routing.Decimal.Binary64

namespace Routing

/-- The decimal `digits * 10 ^ exponent`. -/
structure Decimal where
  /-- The digits as one number. -/
  digits : Nat
  /-- The power of ten of the last digit. -/
  exponent : Int
deriving DecidableEq, Repr

namespace Decimal

/-- Which of two equally close decimals is taken. -/
inductive Tie where
  /-- The greater one. -/
  | up
  /-- The one whose last digit is even. -/
  | even
deriving DecidableEq

/-- The decimal without zeros at its end; the fuel bounds how many there are. -/
def dropZeros (d : Decimal) : Nat → Decimal
  | 0 => d
  | fuel + 1 =>
    if d.digits ≠ 0 ∧ d.digits % 10 = 0 then dropZeros ⟨d.digits / 10, d.exponent + 1⟩ fuel else d

/-- `a * 10 ^ e`, where a negative power multiplies the other side: the pair of
the factors for `a` and for what it is compared with. -/
def scale (e : Int) : Nat × Nat := (Nat.pow 10 e.toNat, Nat.pow 10 (-e).toNat)

/-- The power of ten just above `num / den`: the least `p` of a range that the
bit lengths give with `num / den < 10 ^ p`. -/
def magnitude (num den : Nat) : Int :=
  let bits := (num.log2 : Int) - den.log2
  let guess := bits * 30103 / 100000 - 1
  let fits (p : Int) : Bool :=
    let (up, down) := scale p
    num * down < den * up
  if fits guess then guess
  else if fits (guess + 1) then guess + 1
  else if fits (guess + 2) then guess + 2
  else guess + 3

/-- The decimals with the exponent `e` on both sides of `num / den`, closest
first, as far as they lie in the interval from `low / den` to `high / den`. -/
def candidates (tie : Tie) (closed : Bool) (low num high den : Nat) (e : Int) : List Nat :=
  let (up, down) := scale e
  let unit := den * up
  let below := num * down / unit
  let inside (d : Nat) : Bool :=
    let value := d * unit
    if closed then low * down ≤ value && value ≤ high * down
    else low * down < value && value < high * down
  let rest := 2 * (num * down % unit)
  let belowFirst := rest < unit ∨ (rest = unit ∧ tie = .even ∧ below % 2 = 0)
  (if belowFirst then [below, below + 1] else [below + 1, below]).filter inside

/-- The first length from `n` on for which a decimal lies in the interval, and
that decimal; the fuel counts the lengths that are left to try. -/
def search (tie : Tie) (closed : Bool) (low num high den : Nat) (p : Int) (n : Nat) :
    Nat → Decimal
  | 0 => ⟨num / den, 0⟩
  | fuel + 1 =>
    let e := p - n
    match candidates tie closed low num high den e with
    | d :: _ => ⟨d, e⟩
    | [] => search tie closed low num high den p (n + 1) fuel

/-- The shortest decimal that denotes the magnitude of rank `r`.  Seventeen
digits always suffice. -/
def shortest (tie : Tie) (r : Nat) : Decimal :=
  if r = 0 then ⟨0, 0⟩
  else
    let low := Binary64.units (r - 1) + Binary64.units r
    let num := 2 * Binary64.units r
    let high := Binary64.units r + Binary64.units (r + 1)
    let den := 2 * Binary64.unitsOfOne
    dropZeros (search tie (r % 2 == 0) low num high den (magnitude num den) 1 17) 17

/-- The digits in decimal. -/
def text (d : Decimal) : Text := Text.decimal d.digits

/-- The decimal without exponent: zeros fill up to the point on either side. -/
def positional (d : Decimal) : Text :=
  let digits := d.text
  if 0 ≤ d.exponent then digits ++ List.replicate d.exponent.toNat '0'
  else
    let places := (-d.exponent).toNat
    if places < digits.length then
      digits.take (digits.length - places) ++ '.' :: digits.drop (digits.length - places)
    else "0.".toList ++ List.replicate (places - digits.length) '0' ++ digits

end Decimal
end Routing
