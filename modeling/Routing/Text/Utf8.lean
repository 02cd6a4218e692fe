/-
# UTF-8

Text as octets and back.  Reading splits any octets into characters and
malformed runs: a run is the longest start of a well-formed sequence that stands
there, or one octet where there is none.  Of the two ways to decode, the strict
one refuses text with a malformed run, the lossy one writes U+FFFD for it.
-/

import Routing.Text.Basic

namespace Routing
namespace Utf8

/-- The octets of `s`. -/
def encode (s : Text) : List UInt8 := s.flatMap String.utf8EncodeChar

/-- The octet continues a sequence. -/
def isTail (b : UInt8) : Bool := 0x80 ≤ b && b ≤ 0xBF

/-- The octet may stand second, after the lead octet `a`: overlong forms,
surrogates and numbers above U+10FFFF are cut off here. -/
def isSecond (a b : UInt8) : Bool :=
  if a = 0xE0 then 0xA0 ≤ b && b ≤ 0xBF
  else if a = 0xED then 0x80 ≤ b && b ≤ 0x9F
  else if a = 0xF0 then 0x90 ≤ b && b ≤ 0xBF
  else if a = 0xF4 then 0x80 ≤ b && b ≤ 0x8F
  else isTail b

/-- The six payload bits of an octet that continues a sequence. -/
def payload (b : UInt8) : Nat := b.toNat % 64

/-- The characters of `s` in order, `none` standing for a malformed run. -/
def read : List UInt8 → List (Option Char)
  | [] => []
  | a :: s =>
    if a < 0x80 then some (Char.ofNat a.toNat) :: read s
    else if 0xC2 ≤ a ∧ a ≤ 0xDF then
      match s with
      | [] => [none]
      | b :: t =>
        if isTail b then some (Char.ofNat (a.toNat % 32 * 64 + payload b)) :: read t
        else none :: read (b :: t)
    else if 0xE0 ≤ a ∧ a ≤ 0xEF then
      match s with
      | [] => [none]
      | [b] => if isSecond a b then [none] else none :: read [b]
      | b :: c :: t =>
        if isSecond a b then
          if isTail c then
            some (Char.ofNat (a.toNat % 16 * 4096 + payload b * 64 + payload c)) :: read t
          else none :: read (c :: t)
        else none :: read (b :: c :: t)
    else if 0xF0 ≤ a ∧ a ≤ 0xF4 then
      match s with
      | [] => [none]
      | [b] => if isSecond a b then [none] else none :: read [b]
      | [b, c] =>
        if isSecond a b then
          if isTail c then [none] else none :: read [c]
        else none :: read [b, c]
      | b :: c :: d :: t =>
        if isSecond a b then
          if isTail c then
            if isTail d then
              some (Char.ofNat
                (a.toNat % 8 * 262144 + payload b * 4096 + payload c * 64 + payload d)) :: read t
            else none :: read (d :: t)
          else none :: read (c :: d :: t)
        else none :: read (b :: c :: d :: t)
    else none :: read s

/-- The text that `s` encodes; `none` when a malformed run occurs. -/
def decode? (s : List UInt8) : Option Text := (read s).mapM id

/-- The text of `s` with U+FFFD for each malformed run. -/
def decodeLossy (s : List UInt8) : Text := (read s).map (·.getD '\uFFFD')

end Utf8
end Routing
