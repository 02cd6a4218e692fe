/-
# Text as a list of characters

Templates, URLs and segments are read character by character, so the library
keeps text as a list of characters and leaves `String` to its callers.  This
module holds what every reader shares: blanks and trimming, digits, the
decimal and hexadecimal forms of a number, and splitting at a separator.

Text is ordered by code point, the order of the instance on lists.
-/

namespace Routing

/-- Text, character by character. -/
abbrev Text := List Char

namespace Text

/-- A character of the Unicode property `White_Space`. -/
def isBlank (c : Char) : Bool :=
  let n := c.toNat
  (9 ≤ n && n ≤ 13) || n == 0x20 || n == 0x85 || n == 0xA0 || n == 0x1680 ||
    (0x2000 ≤ n && n ≤ 0x200A) || n == 0x2028 || n == 0x2029 || n == 0x202F || n == 0x205F ||
    n == 0x3000

/-- Drops the characters that `p` holds for from both ends. -/
def trimBy (p : Char → Bool) (s : Text) : Text :=
  ((s.dropWhile p).reverse.dropWhile p).reverse

/-- Drops the blanks at both ends. -/
def trim (s : Text) : Text := trimBy isBlank s

/-- The decimal digit of `n < 10`. -/
def digit (n : Nat) : Char := Char.ofNat (48 + n)

/-- The value of an ASCII decimal digit. -/
def digitValue? (c : Char) : Option Nat :=
  if '0' ≤ c ∧ c ≤ '9' then some (c.toNat - 48) else none

/-- `n` in decimal, without leading zeros. -/
def decimal (n : Nat) : Text :=
  if n < 10 then [digit n] else decimal (n / 10) ++ [digit (n % 10)]

/-- `n` in decimal, filled up with leading zeros to `width` digits. -/
def decimalPadded (width n : Nat) : Text :=
  List.replicate (width - (decimal n).length) '0' ++ decimal n

/-- An integer in decimal, with a sign only when it is negative. -/
def decimalInt (n : Int) : Text :=
  if n < 0 then '-' :: decimal n.natAbs else decimal n.natAbs

/-- The number that a run of decimal digits denotes; `none` at any other
character.  No digits denote zero. -/
def digitsValue? (s : Text) : Option Nat :=
  s.foldl (fun acc c => acc.bind fun v => (digitValue? c).map (10 * v + ·)) (some 0)

/-- The uppercase hexadecimal digit of `n < 16`. -/
def hexDigit (n : Nat) : Char :=
  if n < 10 then Char.ofNat (48 + n) else Char.ofNat (55 + n)

/-- The value of a hexadecimal digit of either case. -/
def hexValue? (c : Char) : Option Nat :=
  if '0' ≤ c ∧ c ≤ '9' then some (c.toNat - 48)
  else if 'A' ≤ c ∧ c ≤ 'F' then some (c.toNat - 55)
  else if 'a' ≤ c ∧ c ≤ 'f' then some (c.toNat - 87)
  else none

/-- `n` in lowercase hexadecimal, without leading zeros. -/
def hexadecimal (n : Nat) : Text :=
  if n < 16 then [(hexDigit n).toLower] else hexadecimal (n / 16) ++ [(hexDigit (n % 16)).toLower]

/-- The number that hexadecimal digits denote; `none` at any other character. -/
def hexDigitsValue? (s : Text) : Option Nat :=
  s.foldl (fun acc c => acc.bind fun v => (hexValue? c).map (16 * v + ·)) (some 0)

/-- The pieces of `s` between the characters that `p` holds for; always at
least one. -/
def splitBy (p : Char → Bool) : Text → List Text
  | [] => [[]]
  | c :: s =>
    if p c then [] :: splitBy p s
    else match splitBy p s with
      | [] => [[c]]
      | piece :: pieces => (c :: piece) :: pieces

/-- The pieces of `s` between its blanks. -/
def words (s : Text) : List Text := (splitBy isBlank s).filter fun word => !word.isEmpty

/-- `s` up to the first `c`, and what follows that `c` when there is one. -/
def cutAt (c : Char) : Text → Text × Option Text
  | [] => ([], none)
  | d :: s =>
    if d = c then ([], some s)
    else
      let (before, after) := cutAt c s
      (d :: before, after)

/-- Removes the literal `pre` from the front of `s`. -/
def stripStart? : Text → Text → Option Text
  | [], s => some s
  | _ :: _, [] => none
  | p :: pre, c :: s => if p = c then stripStart? pre s else none

/-- A text has at least one piece. -/
theorem splitBy_ne_nil (p : Char → Bool) (s : Text) : splitBy p s ≠ [] := by
  cases s with
  | nil => simp [splitBy]
  | cons c s =>
    unfold splitBy
    split
    · simp
    · split <;> simp

/-- A literal at the front is removed, whatever follows. -/
theorem stripStart?_append (pre s : Text) : stripStart? pre (pre ++ s) = some s := by
  induction pre with
  | nil => cases s <;> rfl
  | cons p pre ih => simp [stripStart?, ih]

end Text

end Routing
