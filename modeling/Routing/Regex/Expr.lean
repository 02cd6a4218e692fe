/-
# Regular expressions

The structure of an expression.  Groups are numbered from 1 in the order in
which they open.

A repetition with counts is written out: the body as often as it has to be there,
and then one that may be left out for each further round.  A repetition of no
more than zero rounds is the empty text, and its groups do not exist.
-/

import Routing.Regex.CharSet

namespace Routing
namespace Regex

/-- A condition on a place between two characters. -/
inductive Look where
  /-- The start of the text. -/
  | textStart
  /-- The end of the text. -/
  | textEnd
  /-- The start of a line; `\r` ends one too if `crlf`. -/
  | lineStart (crlf : Bool)
  /-- The end of a line; `\r` ends one too if `crlf`. -/
  | lineEnd (crlf : Bool)
  /-- A word starts or ends here. -/
  | wordBoundary
  /-- No word starts or ends here. -/
  | notWordBoundary
  /-- A word starts here. -/
  | wordStart
  /-- A word ends here. -/
  | wordEnd
  /-- No character of a word is before this place. -/
  | wordStartHalf
  /-- No character of a word is behind this place. -/
  | wordEndHalf
deriving DecidableEq

/-- A regular expression. -/
inductive Expr where
  /-- The empty text. -/
  | empty
  /-- One character of a set. -/
  | char (set : CharSet)
  /-- The empty text at a place with a property. -/
  | look (look : Look)
  /-- One expression and then another. -/
  | seq (first second : Expr)
  /-- One expression, or else another. -/
  | alt (first second : Expr)
  /-- The body any number of times: as often as possible if `greedy`, and as
  rarely as possible otherwise. -/
  | star (greedy : Bool) (body : Expr)
  /-- The body once, and then any number of times. -/
  | plus (greedy : Bool) (body : Expr)
  /-- The body, whose text is kept as the group of this number. -/
  | group (index : Nat) (name : Option Text) (body : Expr)

namespace Expr

/-- The expressions of a list one after the other. -/
def concat (es : List Expr) : Expr := es.foldr seq empty

/-- The expression may match the empty text. -/
def nullable : Expr → Bool
  | empty => true
  | char _ => false
  | look _ => true
  | seq first second => first.nullable && second.nullable
  | alt first second => first.nullable || second.nullable
  | star _ _ => true
  | plus _ body => body.nullable
  | group _ _ body => body.nullable

/-- The expression, or the empty text; the empty text first unless `greedy`. -/
def optional (greedy : Bool) (e : Expr) : Expr := if greedy then alt e empty else alt empty e

/-- The expression `n` times, and then another one. -/
def times (e : Expr) (next : Expr) : Nat → Expr
  | 0 => next
  | n + 1 => seq e (e.times next n)

/-- The expression at most `n` times. -/
def upTo (greedy : Bool) (e : Expr) : Nat → Expr
  | 0 => empty
  | n + 1 => optional greedy (seq e (e.upTo greedy n))

/-- The expression at least `min` and at most `max` times.  A body that may be
empty is a round of its own before the repetition can be left out. -/
def loop (min : Nat) (max : Option Nat) (greedy : Bool) (e : Expr) : Expr :=
  match min, max with
  | min, some max => e.times (e.upTo greedy (max - min)) min
  | 0, none => if e.nullable then optional greedy (plus greedy e) else star greedy e
  | min + 1, none => e.times (plus greedy e) min

/-- The numbers of the groups that have a name, with that name. -/
def groupNames : Expr → List (Nat × Text)
  | empty => []
  | char _ => []
  | look _ => []
  | seq first second => first.groupNames ++ second.groupNames
  | alt first second => first.groupNames ++ second.groupNames
  | star _ body => body.groupNames
  | plus _ body => body.groupNames
  | group index name body => (name.map (index, ·)).toList ++ body.groupNames

/-- The number of the group with the name. -/
def groupIndex? (e : Expr) (name : Text) : Option Nat :=
  (e.groupNames.find? (·.2 == name)).map (·.1)

end Expr
end Regex
end Routing
