/-
# Hosts

Which texts name a host.  In a URL with a special scheme a host is an IPv6
address in brackets, an IPv4 address, or a domain (`Routing.Url.Domain`) in
percent-encoded UTF-8.  A domain whose last label is a number has to be an IPv4
address, whose numbers may be octal (`0`) or hexadecimal (`0x`), and the last of
which fills the octets that are left.  Any other scheme admits every text
without a delimiter.
-/

import Routing.Text.Percent
import Routing.Url.Domain

namespace Routing
namespace Host

/-- A number of an IPv4 address: decimal, octal behind `0`, hexadecimal behind
`0x`. -/
def ipv4Number? (s : Text) : Option Nat :=
  match s with
  | [] => none
  | '0' :: 'x' :: digits => Text.hexDigitsValue? digits
  | '0' :: 'X' :: digits => Text.hexDigitsValue? digits
  | '0' :: d :: digits =>
    (d :: digits).foldl
      (fun acc c => acc.bind fun v =>
        if '0' ≤ c ∧ c ≤ '7' then some (8 * v + (c.toNat - 48)) else none)
      (some 0)
  | digits => Text.digitsValue? digits

/-- The labels of a domain without the empty one behind a final point. -/
def withoutRoot (labels : List Text) : List Text :=
  if labels.length > 1 ∧ labels.getLast? = some [] then labels.dropLast else labels

/-- The last label of the domain is a number. -/
def endsInNumber (labels : List Text) : Bool :=
  match (withoutRoot labels).getLast? with
  | none => false
  | some label =>
    (!label.isEmpty && label.all (fun c => '0' ≤ c && c ≤ '9')) || (ipv4Number? label).isSome

/-- The numbers of an IPv4 address: at most four, each but the last an octet. -/
def isIpv4 (labels : List Text) : Bool :=
  match (withoutRoot labels).mapM ipv4Number? with
  | none => false
  | some numbers =>
    numbers.length ≤ 4 && numbers.dropLast.all (· ≤ 255) &&
      numbers.getLast?.any (· < Nat.pow 256 (5 - numbers.length))

/-- A number from 0 to 255 in decimal, without leading zeros. -/
def isOctet (s : Text) : Bool :=
  match s with
  | [] => false
  | ['0'] => true
  | '0' :: _ => false
  | digits => (Text.digitsValue? digits).any (· ≤ 255)

/-- Four octets joined by points. -/
def isDottedQuad (s : Text) : Bool :=
  let pieces := Text.splitBy (· == '.') s
  pieces.length == 4 && pieces.all isOctet

/-- One to four hexadecimal digits. -/
def isIpv6Piece (s : Text) : Bool :=
  1 ≤ s.length && s.length ≤ 4 && (Text.hexDigitsValue? s).isSome

/-- How many 16-bit pieces the colon-separated list `s` stands for.  A dotted
quad, allowed last when `quad` holds, counts twice. -/
def ipv6Pieces? (quad : Bool) (s : Text) : Option Nat :=
  if s.isEmpty then some 0
  else
    let pieces := Text.splitBy (· == ':') s
    let last := pieces.getLast?.getD []
    if pieces.all isIpv6Piece then some pieces.length
    else if quad && isDottedQuad last && pieces.dropLast.all isIpv6Piece then
      some (pieces.length + 1)
    else none

/-- `s` up to its first `::` and behind it. -/
def cutAtGap : Text → Option (Text × Text)
  | ':' :: ':' :: s => some ([], s)
  | c :: s => (cutAtGap s).map fun (before, after) => (c :: before, after)
  | [] => none

/-- An IPv6 address: eight pieces, or fewer with a `::` for the missing ones. -/
def isIpv6 (s : Text) : Bool :=
  match cutAtGap s with
  | none => ipv6Pieces? true s == some 8
  | some (before, after) =>
    match ipv6Pieces? false before, ipv6Pieces? true after with
    | some m, some n => m + n ≤ 7
    | _, _ => false

/-- The labels of the domain or IPv4 address that a host is. -/
def readDomain? (s : Text) : Option (List Text) :=
  match (Percent.decode? s).bind Domain.read? with
  | none => none
  | some labels =>
    if labels = [[]] ∨ (endsInNumber labels = true ∧ isIpv4 labels = false) then none
    else some labels

/-- A host of a URL with a special scheme. -/
def isSpecialHost (s : Text) : Bool :=
  match s with
  | '[' :: address => address.getLast? == some ']' && isIpv6 address.dropLast
  | _ => (readDomain? s).isSome

/-- A host of any other URL, which may be empty. -/
def isGeneralHost (s : Text) : Bool :=
  match s with
  | '[' :: address => address.getLast? == some ']' && isIpv6 address.dropLast
  | _ => s.all fun c => !"\x00\t\n\r #/:<>?@[\\]^|".toList.contains c

end Host
end Routing
