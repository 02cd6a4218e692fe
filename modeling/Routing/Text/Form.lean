/-
# Form-encoded pairs

The query of a URL as a list of keys and values: pairs joined by `&`, each a
key, `=` and a value, with a blank written as `+`.

Reading is lenient.  Empty pieces are skipped, a piece without `=` is a key with
an empty value, and octets that are not UTF-8 become U+FFFD.
-/

import Routing.Text.Percent

namespace Routing
namespace Form

/-- What a key or a value keeps: letters, digits and `*-._`. -/
def kept : Percent.Kept := fun c => Percent.isAlphanumeric c || "*-._".toList.contains c

/-- One character of a key or a value. -/
def encodeChar (c : Char) : Text := if c = ' ' then ['+'] else Percent.encodeChar kept c

/-- A key or a value. -/
def encode (s : Text) : Text := s.flatMap encodeChar

/-- What a written key or value stands for. -/
def decode (s : Text) : Text :=
  Percent.decodeLossy (s.map fun c => if c = '+' then ' ' else c)

/-- One pair. -/
def renderPair (pair : Text × Text) : Text := encode pair.1 ++ '=' :: encode pair.2

/-- The pairs joined by `&`. -/
def render (pairs : List (Text × Text)) : Text := ['&'].intercalate (pairs.map renderPair)

/-- The pair that one piece of a query stands for. -/
def parsePair (piece : Text) : Text × Text :=
  let (key, value) := Text.cutAt '=' piece
  (decode key, decode (value.getD []))

/-- The pairs of a query, in order. -/
def parse (query : Text) : List (Text × Text) :=
  ((Text.splitBy (· == '&') query).filter (fun piece => !piece.isEmpty)).map parsePair

end Form
end Routing
