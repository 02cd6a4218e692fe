/-
# Configuration

What a router does about a navigation to where it is, and how it resolves URLs.

A configuration is read from JSON: an object with a member for each of the two
choices, or a list of them in that order.  What is left out has its default.  A
choice is written by its name, or as an object whose only member has that name
and the value `null`.  Other members are skipped, and no choice is made twice.
-/

import Routing.Json.Reading
import Routing.RouteTable

namespace Routing

/-- What to do about a navigation to the current location. -/
inductive DuplicateNavigation where
  /-- It is ignored. -/
  | ignore
  /-- It fails. -/
  | error
deriving DecidableEq

/-- How a router works. -/
structure RouterConfig where
  /-- What to do about a navigation to the current location. -/
  onDuplicateNavigation : DuplicateNavigation := .ignore
  /-- How URLs are resolved. -/
  matchStrategy : MatchStrategy := .firstMatch
deriving DecidableEq

/-- The name of a choice. -/
def DuplicateNavigation.name : DuplicateNavigation → Text
  | ignore => "ignore".toList
  | error => "error".toList

/-- The name of a strategy. -/
def MatchStrategy.name : MatchStrategy → Text
  | firstMatch => "first_match".toList
  | ranked => "ranked".toList

namespace RouterConfig

/-- The value `null`, whatever its key. -/
def null? (_key s : Text) : Option (Unit × Text) :=
  (Text.stripStart? "null".toList (Json.skipSpace s)).map ((), ·)

/-- A choice among the values of a list, by its name. -/
def choice? {α : Type} (name : α → Text) (values : List α) (s : Text) : Option (α × Text) :=
  let named (s rest : Text) := (values.find? (name · == s)).map (·, rest)
  match Json.skipSpace s with
  | '"' :: s => (Json.stringBody? false s).bind fun (text, rest) => named text rest
  | '\x7b' :: s =>
    (Json.member? false null? s).bind fun ((text, _), rest) =>
      match Json.skipSpace rest with
      | '\x7d' :: rest => named text rest
      | _ => none
  | _ => none

/-- What to do about duplicates. -/
def duplicateNavigation? : Text → Option (DuplicateNavigation × Text) :=
  choice? DuplicateNavigation.name [.ignore, .error]

/-- The strategy. -/
def matchStrategy? : Text → Option (MatchStrategy × Text) :=
  choice? MatchStrategy.name [.firstMatch, .ranked]

/-- One of the two choices. -/
inductive Setting where
  /-- What to do about duplicates. -/
  | duplicates (value : DuplicateNavigation)
  /-- The strategy. -/
  | strategy (value : MatchStrategy)
  /-- Neither. -/
  | other

/-- The value of a member. -/
def setting? (key s : Text) : Option (Setting × Text) :=
  if key = "on_duplicate_navigation".toList then
    (duplicateNavigation? s).map fun (value, rest) => (.duplicates value, rest)
  else if key = "match_strategy".toList then
    (matchStrategy? s).map fun (value, rest) => (.strategy value, rest)
  else (Json.value? true s.length s).map fun (_, rest) => (.other, rest)

/-- The configuration of some settings, unless a choice is made twice. -/
def ofSettings? (settings : List Setting) : Option RouterConfig :=
  let duplicates := settings.filterMap fun | .duplicates value => some value | _ => none
  let strategies := settings.filterMap fun | .strategy value => some value | _ => none
  if 1 < duplicates.length ∨ 1 < strategies.length then none
  else
    let default : RouterConfig := {}
    some
      { onDuplicateNavigation := duplicates.headD default.onDuplicateNavigation
        matchStrategy := strategies.headD default.matchStrategy }

/-- The configuration of a list behind its opening bracket. -/
def list? (s : Text) : Option (RouterConfig × Text) :=
  match Json.skipSpace s with
  | ']' :: rest => some ({}, rest)
  | s =>
    (duplicateNavigation? s).bind fun (onDuplicateNavigation, rest) =>
      match Json.skipSpace rest with
      | ']' :: rest => some ({ onDuplicateNavigation }, rest)
      | ',' :: rest =>
        (matchStrategy? rest).bind fun (matchStrategy, rest) =>
          match Json.skipSpace rest with
          | ']' :: rest => some ({ onDuplicateNavigation, matchStrategy }, rest)
          | _ => none
      | _ => none

/-- The configuration that a text describes. -/
def read? (s : Text) : Option RouterConfig :=
  let found : Option (RouterConfig × Text) :=
    match Json.skipSpace s with
    | '\x7b' :: s =>
      (Json.enclosed? '\x7d' (Json.member? false setting?) s).bind fun (members, rest) =>
        (ofSettings? (members.map Prod.snd)).map (·, rest)
    | '[' :: s => list? s
    | _ => none
  found.bind fun (config, rest) => if (Json.skipSpace rest).isEmpty then some config else none

end RouterConfig
end Routing
