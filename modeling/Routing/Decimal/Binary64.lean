/-
# Double-precision numbers

The double-precision numbers of 64 bits, with one NaN.  The finite numbers
of either sign are counted from zero upward: the number of rank `r` has the bits
of `r`, and a greater rank is a greater magnitude.  The magnitude of rank `r` is
`significand r * 2 ^ exponent r`; the rank after the last one stands for `2 ^ 1024`.

Rounding is exact: `round` takes a quotient of natural numbers to the nearest
number of the format, and of two equally near ones to the one of even rank.
-/

namespace Routing

/-- The bit above the 52 that a rank stores of its significand. -/
def hiddenBit : Nat := 0x10000000000000

/-- How many finite magnitudes there are. -/
def finiteMagnitudes : Nat := 2047 * hiddenBit

/-- A number of the format binary64. -/
inductive Binary64 where
  /-- The result of no number. -/
  | nan
  /-- An infinity. -/
  | infinite (negative : Bool)
  /-- A finite number by its sign and the rank of its magnitude. -/
  | finite (negative : Bool) (rank : Fin finiteMagnitudes)
deriving DecidableEq

namespace Binary64

/-- The integer factor of the magnitude of rank `r`. -/
def significand (r : Nat) : Nat :=
  if r < hiddenBit then r else hiddenBit + r % hiddenBit

/-- The exponent of two of the magnitude of rank `r`, plus 1074. -/
def shift (r : Nat) : Nat := r / hiddenBit - 1

/-- The magnitude of rank `r` as a multiple of the least positive one,
`2 ^ (-1074)`. -/
def units (r : Nat) : Nat := significand r * Nat.pow 2 (shift r)

/-- The number one as a multiple of the least positive magnitude. -/
def unitsOfOne : Nat := Nat.pow 2 1074

/-- The bit of the sign in the interchange format. -/
def signBit : Nat := 0x8000000000000000

/-- Zero. -/
def zero (negative : Bool) : Binary64 := .finite negative ⟨0, by decide⟩

/-- The magnitude of rank `r`; beyond the finite ones, an infinity. -/
def ofRank (negative : Bool) (r : Nat) : Binary64 :=
  if h : r < finiteMagnitudes then .finite negative ⟨r, h⟩ else .infinite negative

/-- `num / den` to the nearest integer, a half to the even one. -/
def divideRounding (num den : Nat) : Nat :=
  let q := num / den
  let twice := 2 * (num % den)
  if twice > den ∨ (twice = den ∧ q % 2 = 1) then q + 1 else q

/-- The number nearest to `num / den`, with the given sign.  A significand of
53 bits decides the exponent, unless that is the least one. -/
def round (negative : Bool) (num den : Nat) : Binary64 :=
  if num = 0 ∨ den = 0 then zero negative
  else
    let scaled := num * unitsOfOne
    let k := scaled.log2 - den.log2 - 53
    let k := if scaled / (den * Nat.pow 2 k) < 2 * hiddenBit then k else k + 1
    ofRank negative (k * hiddenBit + divideRounding scaled (den * Nat.pow 2 k))

/-- The magnitude as a quotient of natural numbers. -/
def fraction (r : Nat) : Nat × Nat := (units r, unitsOfOne)

/-- The number nearest to an integer. -/
def ofInt (n : Int) : Binary64 := round (n < 0) n.natAbs 1

/-- The number is a NaN. -/
def isNan : Binary64 → Bool
  | nan => true
  | _ => false

/-- The number is finite and an integer. -/
def isInteger : Binary64 → Bool
  | finite _ r => units r % unitsOfOne == 0
  | _ => false

/-- The number is finite and its magnitude is below `2 ^ e`. -/
def isBelow (e : Nat) : Binary64 → Bool
  | finite _ r => units r < unitsOfOne * Nat.pow 2 e
  | _ => false

/-- The number with the opposite sign. -/
def negate : Binary64 → Binary64
  | nan => nan
  | infinite s => .infinite !s
  | finite s r => .finite (!s) r

/-- The bits of the interchange format; a quiet NaN for NaN. -/
def toBits : Binary64 → Nat
  | nan => 0x7FF8000000000000
  | infinite s => s.toNat * signBit + finiteMagnitudes
  | finite s r => s.toNat * signBit + r

/-- The number of the low 64 bits. -/
def ofBits (bits : Nat) : Binary64 :=
  let negative := bits / signBit % 2 == 1
  let r := bits % signBit
  if r = finiteMagnitudes then .infinite negative
  else if h : r < finiteMagnitudes then .finite negative ⟨r, h⟩ else .nan

/-- The number nearest to `digits * 10 ^ exponent`.  Far beyond the range of the
format the outcome does not need the power of ten. -/
def ofDecimal (negative : Bool) (digits : Nat) (exponent : Int) : Binary64 :=
  if digits = 0 then zero negative
  else if exponent > 400 then .infinite negative
  else if (digits.log2 + 1 : Int) + 3 * exponent < -1100 then zero negative
  else if exponent ≥ 0 then round negative (digits * Nat.pow 10 exponent.toNat) 1
  else round negative digits (Nat.pow 10 (-exponent).toNat)

end Binary64
end Routing
