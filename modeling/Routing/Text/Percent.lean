/-
# Percent-encoding

A character that an encoding keeps is written as itself, and any other one as
its UTF-8 octets, each as `%` and two uppercase hexadecimal digits.  Which
characters are kept depends on the place in a URL, so an encoding is given by
the set of the characters that it keeps.

Decoding is lenient: a `%` without two hexadecimal digits behind it stands for
itself.  It fails only when the octets are not UTF-8.
-/

import Routing.Text.Utf8

namespace Routing
namespace Percent

/-- The set of the characters that an encoding leaves as they are. -/
abbrev Kept := Char → Bool

/-- The printable characters of ASCII, the blank included. -/
def isPrintableAscii (c : Char) : Bool := 0x20 ≤ c.toNat && c.toNat ≤ 0x7E

/-- An ASCII letter or digit. -/
def isAlphanumeric (c : Char) : Bool := c.isAlphanum

/-- What a single component keeps: letters, digits and `-_.!~*'()`. -/
def component : Kept := fun c => isAlphanumeric c || "-_.!~*'()".toList.contains c

/-- What a fragment keeps when a URL is read. -/
def fragment : Kept := fun c => isPrintableAscii c && !" \"<>\x60".toList.contains c

/-- What a rendered fragment keeps.  It is percent-decoded when it is read
again, so `%` is encoded too. -/
def renderedFragment : Kept := fun c => fragment c && c != '%'

/-- What the path of a URL keeps. -/
def path : Kept := fun c => fragment c && !"#?\x7b\x7d".toList.contains c

/-- What the query of a URL keeps. -/
def query : Kept := fun c => isPrintableAscii c && !" \"#<>".toList.contains c

/-- What the query of a URL with a special scheme keeps. -/
def specialQuery : Kept := fun c => query c && c != '\''

/-- What an opaque path keeps. -/
def opaquePath : Kept := isPrintableAscii

/-- `%` and the two hexadecimal digits of the octet. -/
def octet (b : UInt8) : Text := ['%', Text.hexDigit (b.toNat / 16), Text.hexDigit (b.toNat % 16)]

/-- One character, encoded unless it is kept. -/
def encodeChar (kept : Kept) (c : Char) : Text :=
  if kept c then [c] else (String.utf8EncodeChar c).flatMap octet

/-- The encoding of `s` that leaves the characters of `kept` as they are. -/
def encode (kept : Kept) (s : Text) : Text := s.flatMap (encodeChar kept)

/-- The octets that `s` stands for. -/
def octets : Text → List UInt8
  | [] => []
  | '%' :: a :: b :: s =>
    match Text.hexValue? a, Text.hexValue? b with
    | some x, some y => UInt8.ofNat (16 * x + y) :: octets s
    | _, _ => 0x25 :: octets (a :: b :: s)
  | c :: s => String.utf8EncodeChar c ++ octets s

/-- The text that `s` stands for; `none` when its octets are not UTF-8. -/
def decode? (s : Text) : Option Text := Utf8.decode? (octets s)

/-- The text that `s` stands for, with U+FFFD where its octets are not UTF-8. -/
def decodeLossy (s : Text) : Text := Utf8.decodeLossy (octets s)

end Percent
end Routing
