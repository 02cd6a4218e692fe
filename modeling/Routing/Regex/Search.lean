/-
# Searching

Trying the ways to match one after the other may take exponential time.  A search
therefore goes on only where the rest can succeed.  It lays the expression out over
the places of the text, as a `Plan`.  Then `leadingTo` tells, part by part, from
which places a plan may lead to a place of a set, and `seek` matches like
`Expr.run` but enters no part at a place from which it cannot lead on.

The sets are found without the groups and the trail of a way, so they may be too
large but never too small, and the search loses nothing.
-/

import Routing.Regex.Matching

namespace Routing
namespace Regex

/-- A set of places of a text.  The bit `n` says whether the place with `n`
characters behind it is in the set. -/
abbrev PlaceSet := Nat

namespace PlaceSet

/-- The place of a cursor is in the set. -/
def has (t : PlaceSet) (c : Cursor) : Bool := t.testBit c.rest.length

/-- The places with a property, of places that are listed from the last one to
the first. -/
def filter (p : Cursor → Bool) : List Cursor → PlaceSet
  | [] => 0
  | c :: places => 2 * filter p places + (p c).toNat

/-- Repeats a step until it changes nothing, at most as often as the fuel says. -/
def settle (step : PlaceSet → PlaceSet) : Nat → PlaceSet → PlaceSet
  | 0, t => t
  | fuel + 1, t =>
    let next := step t
    if next = t then t else settle step fuel next

/-- The places from which any number of rounds may lead to a place of the set;
`before s` are those from which one round leads to a place of `s`. -/
def around (before : PlaceSet → PlaceSet) (fuel : Nat) (t : PlaceSet) : PlaceSet :=
  settle (fun s => t ||| before s) fuel t

/-- Goes on only at the places of the set. -/
def within {α : Type} (t : PlaceSet) (k : Cursor → Option α) (c : Cursor) : Option α :=
  if t.has c then k c else none

end PlaceSet

/-- The places of a text with `previous` before it, from the last one to the
first. -/
def placesOf : Option Char → Text → List Cursor
  | previous, [] => [Cursor.start previous []]
  | previous, x :: s => placesOf (some x) s ++ [Cursor.start previous (x :: s)]

/-- An expression laid out over the places of a text. -/
inductive Plan where
  /-- The empty text. -/
  | empty
  /-- One character of the set, which is behind the given places. -/
  | char (set : CharSet) (places : Thunk PlaceSet)
  /-- The empty text at a place with the property, which the given places have. -/
  | look (look : Look) (places : Thunk PlaceSet)
  /-- One plan and then another. -/
  | seq (first second : Plan)
  /-- One plan, or else another. -/
  | alt (first second : Plan)
  /-- The body any number of times; `fuel` is the number of places. -/
  | star (greedy nullable : Bool) (fuel : Nat) (body : Plan)
  /-- The body once, and then any number of times. -/
  | plus (greedy nullable : Bool) (fuel : Nat) (body : Plan)
  /-- The body, whose text is kept as the group of this number. -/
  | group (index : Nat) (body : Plan)

/-- Lays an expression out over places. -/
def Expr.plan (places : List Cursor) : Expr → Plan
  | empty => .empty
  | char set => .char set (.mk fun _ => PlaceSet.filter (·.rest.head?.any set) places)
  | look l => .look l (.mk fun _ => PlaceSet.filter l.holds places)
  | seq first second => .seq (first.plan places) (second.plan places)
  | alt first second => .alt (first.plan places) (second.plan places)
  | star greedy body => .star greedy body.nullable places.length (body.plan places)
  | plus greedy body => .plus greedy body.nullable places.length (body.plan places)
  | group index _ body => .group index (body.plan places)

namespace Plan

/-- The places from which a plan may lead to a place of the set. -/
def leadingTo : Plan → PlaceSet → PlaceSet
  | empty, t => t
  | char _ places, t => (t <<< 1) &&& places.get
  | look _ places, t => t &&& places.get
  | seq first second, t => first.leadingTo (second.leadingTo t)
  | alt first second, t => first.leadingTo t ||| second.leadingTo t
  | star _ _ fuel body, t => PlaceSet.around body.leadingTo fuel t
  | plus _ _ fuel body, t => body.leadingTo (PlaceSet.around body.leadingTo fuel t)
  | group _ body, t => body.leadingTo t

/-- There is at most one way to match the plan. -/
def isSimple : Plan → Bool
  | empty => true
  | char _ _ => true
  | look _ _ => true
  | _ => false

/-- Matches the part of a plan at an address, where the rest succeeds at no place
outside of the set. -/
def seek {α : Type} : Plan → Bool → Address → PlaceSet → Matcher α
  | empty, _, _, _, c, k => k c
  | char set _, _, _, _, c, k => Matcher.char set c k
  | look l _, _, _, _, c, k => if l.holds c then k c else none
  | seq first second, tracked, here, t, c, k =>
    let next c := second.seek tracked (true :: here) t c k
    if first.isSimple then first.seek tracked (false :: here) 0 c next
    else
      let middle := second.leadingTo t
      first.seek tracked (false :: here) middle c (middle.within next)
  | alt first second, tracked, here, t, c, k =>
    Matcher.choose tracked here c fun c =>
      (first.seek tracked (false :: here) t c k).orElse fun _ =>
        second.seek tracked (true :: here) t c k
  | star greedy nullable fuel body, tracked, here, t, c, k =>
    let tracked := tracked || nullable
    let middle := PlaceSet.around body.leadingTo fuel t
    let round c k := body.seek tracked (false :: here) middle c (middle.within k)
    Matcher.star greedy tracked here round (c.rest.length + 1) c k
  | plus greedy nullable fuel body, tracked, here, t, c, k =>
    let tracked := tracked || nullable
    let middle := PlaceSet.around body.leadingTo fuel t
    let round c k := body.seek tracked (false :: here) middle c (middle.within k)
    round c fun c => Matcher.star greedy tracked here round (c.rest.length + 1) c k
  | group index body, tracked, here, t, c, k =>
    body.seek tracked (false :: here) t c fun c' => k (c'.capture index (c.textTo c'))

/-- The groups of the match at a place, which may end at a place of the set. -/
def groupsAt? (p : Plan) (ends : PlaceSet) (c : Cursor) : Option (List (Nat × Text)) :=
  p.seek false [] ends c (some ·.groups)

/-- The groups of the first match in a text with `previous` before it. -/
def search? (p : Plan) (ends : PlaceSet) : Option Char → Text → Option (List (Nat × Text))
  | previous, [] => p.groupsAt? ends (Cursor.start previous [])
  | previous, x :: s =>
    (p.groupsAt? ends (Cursor.start previous (x :: s))).orElse fun _ => p.search? ends (some x) s

end Plan

/-- The groups of the first match in a text with `previous` before it. -/
def Expr.find? (e : Expr) (previous : Option Char) (s : Text) : Option (List (Nat × Text)) :=
  let places := placesOf previous s
  (e.plan places).search? (PlaceSet.filter (fun _ => true) places) previous s

end Regex
end Routing
