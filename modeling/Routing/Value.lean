/-
# Values of parameters

What a segment of a path decodes to.  A number that was no number is kept as the
floating-point NaN.
-/

import Routing.Calendar.Instant
import Routing.Decimal.Number

namespace Routing

/-- The typed value of a parameter. -/
inductive Value where
  /-- Text. -/
  | string (s : Text)
  /-- A truth value. -/
  | boolean (b : Bool)
  /-- An integer of 64 bits. -/
  | integer (n : Int64)
  /-- A floating-point number; NaN also stands for a number that could not be read. -/
  | float (x : Binary64)
  /-- A day. -/
  | date (d : Date)
  /-- A point in time. -/
  | datetime (t : Instant)
  /-- A list of values. -/
  | array (items : List Value)

namespace Value

/-- The name of the kind of the value. -/
def kind : Value → Text
  | string _ => "string".toList
  | boolean _ => "boolean".toList
  | integer _ => "integer".toList
  | float _ => "float".toList
  | date _ => "date".toList
  | datetime _ => "datetime".toList
  | array _ => "array".toList

/-- The text of a string. -/
def asString? : Value → Option Text
  | string s => some s
  | _ => none

/-- The truth value of a boolean. -/
def asBoolean? : Value → Option Bool
  | boolean b => some b
  | _ => none

/-- The number of an integer. -/
def asInteger? : Value → Option Int64
  | integer n => some n
  | _ => none

/-- The number of a float, or the float nearest to an integer. -/
def asFloat? : Value → Option Binary64
  | float x => some x
  | integer n => some (Binary64.ofInt n.toInt)
  | _ => none

/-- The items of an array. -/
def asArray? : Value → Option (List Value)
  | array items => some items
  | _ => none

/-- The value stands for a number that could not be read. -/
def isNan : Value → Bool
  | float x => x.isNan
  | _ => false

end Value
end Routing
