/-
# JSON values

A value of JSON and its compact text.  A number that was written as an integer
of 64 bits stays one; any other number is floating point.  The members of an
object are ordered by key.

In strings the quote, the backslash and the control characters are escaped.  A
floating-point number always shows a point or an exponent: it is written
positionally when its point lies at most 16 places behind the first digit and at
most four zeros stand between the point and the digits; an exponent always has a sign.
-/

import Routing.Decimal.Shortest
import Routing.Dictionary

namespace Routing
namespace Json

/-- A number. -/
inductive Number where
  /-- An integer. -/
  | integer (n : Int)
  /-- A finite floating-point number. -/
  | real (x : Binary64)

end Json

/-- A value of JSON. -/
inductive Json where
  /-- The value `null`. -/
  | null
  /-- A truth value. -/
  | boolean (b : Bool)
  /-- A number. -/
  | number (n : Json.Number)
  /-- A string. -/
  | string (s : Text)
  /-- A list of values. -/
  | array (items : List Json)
  /-- Keys with values, ordered by key. -/
  | object (members : List (Text × Json))

namespace Json

/-- One character of a string. -/
def renderChar (c : Char) : Text :=
  if c = '"' then "\\\"".toList
  else if c = '\\' then "\\\\".toList
  else if c = '\x08' then "\\b".toList
  else if c = '\x0C' then "\\f".toList
  else if c = '\n' then "\\n".toList
  else if c = '\r' then "\\r".toList
  else if c = '\t' then "\\t".toList
  else if c.toNat < 0x20 then
    "\\u00".toList ++
      [(Text.hexDigit (c.toNat / 16)).toLower, (Text.hexDigit (c.toNat % 16)).toLower]
  else [c]

/-- A string in quotes. -/
def renderString (s : Text) : Text := '"' :: s.flatMap renderChar ++ ['"']

/-- A list of strings. -/
def renderStrings (items : List Text) : Text :=
  '[' :: [','].intercalate (items.map renderString) ++ [']']

/-- A floating-point magnitude from its shortest decimal. -/
def renderDecimal (d : Decimal) : Text :=
  let digits := d.text
  let point : Int := digits.length + d.exponent
  if d.digits = 0 then "0.0".toList
  else if 0 ≤ d.exponent ∧ point ≤ 16 then d.positional ++ ".0".toList
  else if -5 < point ∧ point ≤ 16 then d.positional
  else
    digits.take 1 ++ (if digits.length = 1 then [] else '.' :: digits.drop 1) ++
      'e' :: (if point < 1 then '-' else '+') :: Text.decimal (point - 1).natAbs

/-- A number. -/
def renderNumber : Number → Text
  | .integer n => Text.decimalInt n
  | .real (.finite negative r) =>
    (if negative then ['-'] else []) ++ renderDecimal (Decimal.shortest .even r)
  | .real _ => "null".toList

mutual

/-- The compact text of a value. -/
def render : Json → Text
  | null => "null".toList
  | boolean true => "true".toList
  | boolean false => "false".toList
  | number n => renderNumber n
  | string s => renderString s
  | array items => '[' :: renderItems items ++ [']']
  | object members => '\x7b' :: renderMembers members ++ ['\x7d']

/-- The items of a list, separated by commas. -/
def renderItems : List Json → Text
  | [] => []
  | [item] => render item
  | item :: items => render item ++ ',' :: renderItems items

/-- The members of an object, separated by commas. -/
def renderMembers : List (Text × Json) → Text
  | [] => []
  | [(key, value)] => renderString key ++ ':' :: render value
  | (key, value) :: members =>
    renderString key ++ ':' :: render value ++ ',' :: renderMembers members

end

end Json
end Routing
