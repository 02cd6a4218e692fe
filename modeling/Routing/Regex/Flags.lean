/-
# Flags

Flags change how the rest of a group is read: `i` matches either case, `m` lets
`^` and `$` match at lines, `s` lets `.` match a line feed, `U` swaps greedy and
lazy loops, `u` reads characters beyond ASCII, `R` lets `\r` end a line, and `x`
ignores blanks and comments.

A directive names each flag at most once; the flags behind a `-` are switched
off.
-/

import Routing.Regex.CharSet

namespace Routing
namespace Regex

/-- How an expression is read. -/
structure Flags where
  /-- Letters match in either case. -/
  ignoreCase : Bool := false
  /-- `^` and `$` match at lines. -/
  multiLine : Bool := false
  /-- `.` matches a line feed. -/
  dotAll : Bool := false
  /-- Loops are lazy, and greedy with a `?`. -/
  swapGreed : Bool := false
  /-- Characters beyond ASCII are matched. -/
  unicode : Bool := true
  /-- `\r` ends a line. -/
  crlf : Bool := false
  /-- Blanks and comments are ignored. -/
  extended : Bool := false
deriving DecidableEq

namespace Flags

/-- The flags with one of them set. -/
def set? (flags : Flags) (flag : Char) (value : Bool) : Option Flags :=
  if flag = 'i' then some { flags with ignoreCase := value }
  else if flag = 'm' then some { flags with multiLine := value }
  else if flag = 's' then some { flags with dotAll := value }
  else if flag = 'U' then some { flags with swapGreed := value }
  else if flag = 'u' then some { flags with unicode := value }
  else if flag = 'R' then some { flags with crlf := value }
  else if flag = 'x' then some { flags with extended := value }
  else none

/-- Reads the rest of a directive up to its closing `:` or `)`, which is returned
as well.  `seen` holds what the directive named before.  It does not end in `-`,
and it names something if `)` closes it. -/
def directive? (flags : Flags) (seen : List Char) : Text → Option (Flags × Char × Text)
  | [] => none
  | c :: s =>
    if c = ':' ∨ c = ')' then
      if seen.head? = some '-' ∨ (c = ')' ∧ seen = []) then none else some (flags, c, s)
    else if seen.contains c then none
    else if c = '-' then directive? flags (c :: seen) s
    else
      match flags.set? c (!seen.contains '-') with
      | none => none
      | some flags => directive? flags (c :: seen) s

/-- Drops blanks and comments; `comment` tells that the text begins in one. -/
def dropSpace (comment : Bool) : Text → Text
  | [] => []
  | c :: s =>
    if comment then dropSpace (c != '\n') s
    else if Text.isBlank c then dropSpace false s
    else if c = '#' then dropSpace true s
    else c :: s

/-- The text from the next character that counts. -/
def skip (flags : Flags) (s : Text) : Text := if flags.extended then dropSpace false s else s

/-- The characters that `p` holds for, as far as the fuel goes. -/
def takeBounded (flags : Flags) (p : Char → Bool) : Nat → Text → Text × Text
  | 0, s => ([], s)
  | fuel + 1, s =>
    match flags.skip s with
    | [] => ([], [])
    | c :: s =>
      if p c then
        let (taken, rest) := takeBounded flags p fuel s
        (c :: taken, rest)
      else ([], c :: s)

/-- The characters that `p` holds for at the front of `s`, and the text from the
next other character that counts. -/
def takeWhile (flags : Flags) (p : Char → Bool) (s : Text) : Text × Text :=
  takeBounded flags p (s.length + 1) s

/-- The set, with either case if case does not matter. -/
def fold (flags : Flags) (set : CharSet) : CharSet :=
  if flags.ignoreCase then set.folded flags.unicode else set

/-- The set or what lies outside it.  Without Unicode there is no outside, as it
would hold parts of characters. -/
def complement? (flags : Flags) (negated : Bool) (set : CharSet) : Option CharSet :=
  if !negated then some set
  else if flags.unicode then some set.compl
  else none

end Flags
end Regex
end Routing
