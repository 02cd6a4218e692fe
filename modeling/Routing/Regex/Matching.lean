/-
# Matching

An expression is matched by trying its choices in order: the first branch before
the second one, another round of a greedy loop before leaving it.  The first way
to match that also lets the rest succeed is the one that counts, and the match
that starts first.

`run e tracked here c k` matches `e` at the cursor `c` and goes on with `k`.  The
body of a loop may match the empty text, and rounds of it could go on forever.
In such a loop, which is then `tracked`, a way may not come to one choice twice
at the same place.  The choices are told apart by `here`, their address in the
whole expression.
-/

import Routing.Regex.Expr

namespace Routing
namespace Regex

/-- The way from a whole expression to a part of it, the last turn first: `true`
where it goes to the second of two parts. -/
abbrev Address := List Bool

/-- A place in a text, and what happened before it. -/
structure Cursor where
  /-- The character before the place. -/
  previous : Option Char
  /-- The text behind the place. -/
  rest : Text
  /-- The texts of groups by number, the latest first. -/
  groups : List (Nat × Text)
  /-- The tracked choices that were come to at this place. -/
  trail : List Address

namespace Cursor

/-- The start of a text with `previous` before it. -/
def start (previous : Option Char) (s : Text) : Cursor := ⟨previous, s, [], []⟩

/-- The text between a place and a later one. -/
def textTo (c later : Cursor) : Text := c.rest.take (c.rest.length - later.rest.length)

/-- The cursor with a text for a group. -/
def capture (c : Cursor) (index : Nat) (s : Text) : Cursor :=
  { c with groups := (index, s) :: c.groups }

/-- The cursor behind `x`, which is the character before `rest`. -/
def advance (c : Cursor) (x : Char) (rest : Text) : Cursor :=
  { c with previous := some x, rest, trail := [] }

/-- A character of a word is before the place. -/
def wordBefore (c : Cursor) : Bool := c.previous.any CharSet.word

/-- A character of a word is behind the place. -/
def wordBehind (c : Cursor) : Bool := c.rest.head?.any CharSet.word

end Cursor

/-- The place has the property. -/
def Look.holds : Look → Cursor → Bool
  | textStart, c => c.previous.isNone
  | textEnd, c => c.rest.isEmpty
  | lineStart crlf, c =>
    c.previous.isNone || c.previous == some '\n' ||
      (crlf && c.previous == some '\r' && c.rest.head? != some '\n')
  | lineEnd crlf, c =>
    if crlf then
      c.rest.isEmpty || c.rest.head? == some '\r' ||
        (c.rest.head? == some '\n' && c.previous != some '\r')
    else c.rest.isEmpty || c.rest.head? == some '\n'
  | wordBoundary, c => c.wordBefore != c.wordBehind
  | notWordBoundary, c => c.wordBefore == c.wordBehind
  | wordStart, c => !c.wordBefore && c.wordBehind
  | wordEnd, c => c.wordBefore && !c.wordBehind
  | wordStartHalf, c => !c.wordBefore
  | wordEndHalf, c => !c.wordBehind

/-- Matches at a cursor, and goes on with the rest. -/
abbrev Matcher (α : Type) := Cursor → (Cursor → Option α) → Option α

namespace Matcher

variable {α : Type}

/-- One of two ways, and the other one if it fails; `more` comes first if
`greedy`. -/
def prefer (greedy : Bool) (more fewer : Unit → Option α) : Option α :=
  if greedy then (more ()).orElse fewer else (fewer ()).orElse more

/-- A character of the set. -/
def char (set : CharSet) : Matcher α := fun c k =>
  match c.rest with
  | [] => none
  | x :: rest => if set x then k (c.advance x rest) else none

/-- Comes to the choice at an address. -/
def choose (tracked : Bool) (here : Address) : Matcher α := fun c k =>
  if tracked then
    if c.trail.contains here then none else k { c with trail := here :: c.trail }
  else k c

/-- Any number of rounds.  The fuel is more than the number of characters behind
the cursor. -/
def star (greedy tracked : Bool) (here : Address) (round : Matcher α) : Nat → Matcher α
  | 0, _, _ => none
  | fuel + 1, c, k =>
    choose tracked here c fun c =>
      prefer greedy (fun _ => round c fun c => star greedy tracked here round fuel c k) fun _ => k c

end Matcher

/-- Matches the part of an expression at an address. -/
def Expr.run {α : Type} : Expr → Bool → Address → Matcher α
  | empty, _, _, c, k => k c
  | char set, _, _, c, k => Matcher.char set c k
  | look l, _, _, c, k => if l.holds c then k c else none
  | seq first second, tracked, here, c, k =>
    first.run tracked (false :: here) c fun c => second.run tracked (true :: here) c k
  | alt first second, tracked, here, c, k =>
    Matcher.choose tracked here c fun c =>
      (first.run tracked (false :: here) c k).orElse fun _ => second.run tracked (true :: here) c k
  | star greedy body, tracked, here, c, k =>
    let tracked := tracked || body.nullable
    let round := body.run tracked (false :: here)
    Matcher.star greedy tracked here round (c.rest.length + 1) c k
  | plus greedy body, tracked, here, c, k =>
    let tracked := tracked || body.nullable
    let round := body.run tracked (false :: here)
    round c fun c => Matcher.star greedy tracked here round (c.rest.length + 1) c k
  | group index _ body, tracked, here, c, k =>
    body.run tracked (false :: here) c fun c' => k (c'.capture index (c.textTo c'))

/-- The groups of the match of a whole expression at a place. -/
def Expr.groupsAt? (e : Expr) (c : Cursor) : Option (List (Nat × Text)) :=
  e.run false [] c (some ·.groups)

/-- The groups of the first match in a text with `previous` before it. -/
def Expr.search? (e : Expr) : Option Char → Text → Option (List (Nat × Text))
  | previous, [] => e.groupsAt? (Cursor.start previous [])
  | previous, x :: s =>
    (e.groupsAt? (Cursor.start previous (x :: s))).orElse fun _ => e.search? (some x) s

end Regex
end Routing
