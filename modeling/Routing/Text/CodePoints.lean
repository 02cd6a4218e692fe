/-
# Sets of code points

A property of characters is a set of code points.  A set is written in hexadecimal,
as the ranges `41-5A` and the single code points `AA` that it consists of, with
blanks between them.
-/

import Routing.Text.Basic

namespace Routing

/-- A set of code points. -/
structure CodePoints where
  /-- The first and the last code point of each range. -/
  ranges : List (Nat × Nat)

namespace CodePoints

/-- The first and the last code point of a written range. -/
def readRange? (s : Text) : Option (Nat × Nat) :=
  match Text.cutAt '-' s with
  | (low, some high) =>
    (Text.hexDigitsValue? low).bind fun m => (Text.hexDigitsValue? high).map fun n => (m, n)
  | (low, none) => (Text.hexDigitsValue? low).map fun n => (n, n)

/-- The set that is written as `s`. -/
def ofString (s : String) : CodePoints := ⟨(Text.words s.toList).filterMap readRange?⟩

/-- The character belongs to the set. -/
def contains (set : CodePoints) (c : Char) : Bool :=
  set.ranges.any fun (low, high) => low ≤ c.toNat && c.toNat ≤ high

end CodePoints
end Routing
