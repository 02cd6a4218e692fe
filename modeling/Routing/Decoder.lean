/-
# Decoders

A decoder turns a percent-decoded segment of a path into a value and a value
back into a segment.  Its matcher is the regular expression that the segment has
to match before it is percent-decoded.

Strings, booleans and numbers are read leniently: every text but `true` is false,
and a text that is no number becomes NaN.  Days, instants and arrays may fail.
An array is a JSON list, whose items another decoder reads; it is written as a
list of strings.  Further decoders are given by their functions.
-/

import Routing.Json.Reading
import Routing.Value

namespace Routing

/-- Why a segment does not decode. -/
inductive DecodeError where
  /-- The segment is not a JSON list. -/
  | notAnArray
  /-- The segment is no day. -/
  | date (segment : Text)
  /-- The segment is no instant. -/
  | datetime (segment : Text)
  /-- The failure of a decoder that is not built in. -/
  | custom (message : Text)
deriving DecidableEq

namespace DecodeError

/-- The failure in words. -/
def message : DecodeError → String
  | notAnArray => "array decoder failed to parse array"
  | date segment => "\x60" ++ String.ofList segment ++ "\x60 is not a calendar date"
  | datetime segment => "\x60" ++ String.ofList segment ++ "\x60 is not an ISO-8601 date-time"
  | custom message => String.ofList message

end DecodeError

/-- Why data does not encode. -/
inductive EncodeError where
  /-- The data has no value for a parameter. -/
  | missingParameter (name : Text)
  /-- A value is not of the kind that a decoder writes. -/
  | typeMismatch (expected found : Text)
deriving DecidableEq

namespace EncodeError

/-- The failure in words. -/
def message : EncodeError → String
  | missingParameter name => "no value given for parameter \x60" ++ String.ofList name ++ "\x60"
  | typeMismatch expected found =>
    "expected a value of kind " ++ String.ofList expected ++ ", found " ++ String.ofList found

end EncodeError

/-- The matcher of every decoder that does not bring its own: characters up to
the next slash. -/
def defaultMatcher : Text := "[^/]+".toList

/-- A decoder given by its functions. -/
structure CustomDecoder where
  /-- The name of the kind of its values. -/
  kind : Text
  /-- The regular expression of its segments. -/
  matcher : Text
  /-- The value of a segment. -/
  decode : Text → Except DecodeError Value
  /-- The segment of a value. -/
  encode : Value → Except EncodeError Text

/-- Reads and writes the values of a parameter. -/
inductive Decoder where
  /-- Any text. -/
  | string
  /-- The words `true` and `false`. -/
  | boolean
  /-- An integer of 64 bits. -/
  | integer
  /-- A floating-point number. -/
  | float
  /-- A day. -/
  | date
  /-- A point in time. -/
  | datetime
  /-- A list of what another decoder reads. -/
  | array (element : Decoder)
  /-- A decoder that is not built in. -/
  | custom (decoder : CustomDecoder)

namespace Decoder

/-- The name of the kind of values, such as `integer` or `array<date>`. -/
def kind : Decoder → Text
  | string => "string".toList
  | boolean => "boolean".toList
  | integer => "integer".toList
  | float => "float".toList
  | date => "date".toList
  | datetime => "datetime".toList
  | array element => "array<".toList ++ element.kind ++ ['>']
  | custom decoder => decoder.kind

/-- The regular expression that a raw segment has to match. -/
def matcher : Decoder → Text
  | custom decoder => decoder.matcher
  | _ => defaultMatcher

/-- An integer between blanks.  Nothing is zero, and all else that is no
integer of 64 bits is NaN. -/
def decodeInteger (s : Text) : Value :=
  let s := Text.trim s
  if s.isEmpty then .integer 0
  else
    match Number.int64? s with
    | some n => .integer n
    | none => .float .nan

/-- A floating-point number between blanks.  Nothing is zero, and all else that
is no number is NaN. -/
def decodeFloat (s : Text) : Value :=
  let s := Text.trim s
  if s.isEmpty then .float (Binary64.zero false)
  else .float ((Number.binary64? s).getD .nan)

/-- A day, given as such or as an instant on that day in UTC. -/
def decodeDate (s : Text) : Except DecodeError Value :=
  match Date.parse? s with
  | some d => .ok (.date d)
  | none =>
    match (Instant.parse? s).bind (Date.ofCivil? ·.day) with
    | some d => .ok (.date d)
    | none => .error (.date s)

/-- An instant, given as such or as the day that begins with it in UTC. -/
def decodeDatetime (s : Text) : Except DecodeError Value :=
  match Instant.parse? s with
  | some t => .ok (.datetime t)
  | none =>
    match Date.parse? s with
    | some d => .ok (.datetime (Instant.midnight d))
    | none => .error (.datetime s)

/-- The text by which an array hands an item to the decoder of its items: the
characters of a string, the JSON text of anything else. -/
def itemText : Json → Text
  | .string s => s
  | item => item.render

/-- The value of a segment. -/
def decode : Decoder → Text → Except DecodeError Value
  | string, s => .ok (.string s)
  | boolean, s => .ok (.boolean (s == "true".toList))
  | integer, s => .ok (decodeInteger s)
  | float, s => .ok (decodeFloat s)
  | date, s => decodeDate s
  | datetime, s => decodeDatetime s
  | array element, s =>
    match Json.parse? s with
    | some (.array items) => (items.mapM fun item => element.decode (itemText item)).map .array
    | _ => .error .notAnArray
  | custom decoder, s => decoder.decode s

/-- The floats that a segment for integers may hold: NaN, and integers below 2⁶³
in magnitude. -/
def isIntegral (x : Binary64) : Bool := x.isNan || (x.isInteger && x.isBelow 63)

/-- The segment of a value. -/
def encode : Decoder → Value → Except EncodeError Text
  | string, .string s => .ok s
  | boolean, .boolean b => .ok (if b then "true".toList else "false".toList)
  | integer, .integer n => .ok (Number.renderInt64 n)
  | integer, .float x =>
    if isIntegral x then .ok (Number.renderBinary64 x)
    else .error (.typeMismatch (kind integer) (Value.kind (.float x)))
  | float, .float x => .ok (Number.renderBinary64 x)
  | float, .integer n => .ok (Number.renderInt64 n)
  | date, .date d => .ok d.render
  | date, .datetime t => .ok t.day.render
  | datetime, .datetime t => .ok t.render
  | array element, .array items => (items.mapM element.encode).map Json.renderStrings
  | custom decoder, value => decoder.encode value
  | decoder, value => .error (.typeMismatch decoder.kind value.kind)

end Decoder
end Routing
