/-
# Labels in ASCII

A label that is not ASCII is written in ASCII in the form Punycode: the characters
of ASCII come first, and behind a hyphen follow the others, each as the distance
from the one before it in the order of code points and places.  A distance is a
number to base 36 whose digits end by a threshold that adapts to the distances read.
-/

import Routing.Text.Basic

namespace Routing
namespace Punycode

/-- The threshold of the `k`th digit of a distance. -/
def threshold (k bias : Nat) : Nat := min 26 (max 1 (36 * (k + 1) - bias))

/-- The bias after a distance, for the digits of the next one. -/
def adapt (distance count : Nat) (first : Bool) : Nat :=
  let distance := if first then distance / 700 else distance / 2
  shrink (distance + distance / count) 0 8
where
  /-- Divides by 35 until the rest is small; the fuel of eight steps exceeds what a
  32-bit distance needs. -/
  shrink (distance k : Nat) : Nat → Nat
    | 0 => k + 36 * distance / (distance + 38)
    | fuel + 1 =>
      if distance > 455 then shrink (distance / 35) (k + 36) fuel
      else k + 36 * distance / (distance + 38)

/-- The value of a small letter or digit as a digit to base 36. -/
def base36? (c : Char) : Option Nat :=
  if 'a' ≤ c ∧ c ≤ 'z' then some (c.toNat - 97)
  else if '0' ≤ c ∧ c ≤ '9' then some (c.toNat - 22)
  else none

/-- Reads the distances `s` into the characters decoded so far.  `n` and `i` are
the last code point and the place behind it; `k`, `weight` and `distance` are the
state of the distance being read. -/
def insertDistances (n i bias k weight distance : Nat) (chars : Text) : Text → Option Text
  | [] => if k = 0 then some chars else none
  | c :: s =>
    match base36? c with
    | none => none
    | some d =>
      let distance := distance + d * weight
      let t := threshold k bias
      if distance ≥ 0x100000000 then none
      else if d ≥ t then
        insertDistances n i bias (k + 1) (weight * (36 - t)) distance chars s
      else
        let count := chars.length + 1
        let n' := n + (i + distance) / count
        let place := (i + distance) % count
        if Nat.isValidChar n' then
          insertDistances n' (place + 1) (adapt distance count (i == 0)) 0 1 0
            (chars.take place ++ Char.ofNat n' :: chars.drop place) s
        else none

/-- The characters of an encoded label. -/
def decode? (s : Text) : Option Text :=
  match Text.cutAt '-' s.reverse with
  | (_, some []) => none
  | (distances, some basic) => insertDistances 128 0 72 0 1 0 basic.reverse distances.reverse
  | (distances, none) => insertDistances 128 0 72 0 1 0 [] distances.reverse

end Punycode
end Routing
