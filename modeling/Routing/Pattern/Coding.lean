/-
# Decoding and encoding

A pattern decodes a URL whose path it matches: each parameter takes its value
from the percent-decoded text of its group, and the query and the hash come with
them.  A group that took no part in the match, or text that is not UTF-8, is as
good as no match.

Encoding writes the values into the path.  Whatever it writes is percent-encoded
so that it stays within its place.
-/

import Routing.Address
import Routing.Pattern.Basic
import Routing.RouteData

namespace Routing
namespace Pattern

/-- The path of the URL matches. -/
def isMatch (p : Pattern) (url : Text) : Bool :=
  (Address.read? url).any fun address => p.regex.isMatch address.path

/-- The values of parameters, each with the number of its group, by the texts of
groups.  `values` are those of the parameters before. -/
def decodeParams (texts : List (Nat × Text)) :
    List (Param × Nat) → Dictionary Value → Except DecodeError (Option (Dictionary Value))
  | [], values => .ok (some values)
  | (param, group) :: params, values =>
    match (texts.lookup group).bind Percent.decode? with
    | none => .ok none
    | some segment =>
      match param.decoder.decode segment with
      | .error e => .error e
      | .ok value => decodeParams texts params (values.insert param.name value)

/-- The data of a URL; nothing if it does not match, and the failure if a
parameter does not decode. -/
def tryDecode (p : Pattern) (url : Text) : Except DecodeError (Option RouteData) :=
  match Address.read? url with
  | none => .ok none
  | some address =>
    match p.regex.captures? address.path with
    | none => .ok none
    | some texts =>
      (decodeParams texts (p.params.zip p.groups) Dictionary.empty).map fun values =>
        values.map fun params => { params, search := address.search, hash := address.hash }

/-- The data of a URL, unless it does not match or decode. -/
def decode (p : Pattern) (url : Text) : Option RouteData :=
  match p.tryDecode url with
  | .ok data => data
  | .error _ => none

/-- The part of a path that a token stands for. -/
def encodeToken (params : Dictionary Value) : Token → Except EncodeError Text
  | .literal s => .ok s
  | .param p =>
    match params.get? p.name with
    | none => .error (.missingParameter p.name)
    | some value => (p.decoder.encode value).map (Percent.encode Percent.component)

/-- The path with the values. -/
def encodePath (p : Pattern) (params : Dictionary Value) : Except EncodeError Text :=
  (p.tokens.mapM (encodeToken params)).map List.flatten

/-- The URL of a path with the search and the hash of the data. -/
def withPath (data : RouteData) (path : Text) : Text :=
  Address.render { path, search := data.search, hash := data.hash }

/-- The URL with the data. -/
def encode (p : Pattern) (data : RouteData) : Except EncodeError Text :=
  (p.encodePath data.params).map (withPath data)

end Pattern
end Routing
