/-
# Labels of a domain

A label neither holds characters that end a host nor begins with a mark, and a
joiner in it stands where it changes the shape of letters.  Behind `xn--` a label
holds its characters in the encoding of `Routing.Url.Domain.Punycode`; these have to
be the very characters that the mapping of a domain leaves, and not ASCII alone.
Labels that are too long to encode are refused.
-/

import Routing.Text.Mark
import Routing.Url.Domain.Composition
import Routing.Url.Domain.Mapping
import Routing.Url.Domain.Punycode

namespace Routing
namespace Domain

/-- A character of ASCII that no domain has. -/
def isForbidden (c : Char) : Bool :=
  c.toNat ≤ 0x20 || c.toNat == 0x7F || "%#/:<>?@[\\]^|".toList.contains c

/-- The letters that join the letter after them. -/
def joinAfter : CodePoints := .ofString "
  620 626 628 62A-62E 633-63F 641-647 649-64A 66E-66F 679-687 69A-6BF 6C1-6C2 6CC 6CE 6D0-6D1
  6FA-6FC 6FF 712-714 71A-71D 71F-727 729 72B 72D-72E 74E-758 75C-76A 76D-770 772 775-777 77A-77F
  7CA-7EA 841-845 848 84A-853 855 860 862-865 868 886 889-88D 88F 8A0-8A9 8AF-8B0 8B3-8B8 8BA-8C8
  1807 1820-1878 1887-18A8 18AA A840-A872 10AC0-10AC4 10ACD 10AD3-10ADC 10ADE-10AE0 10AEB-10AEE
  10B80 10B82 10B86-10B88 10B8A-10B8B 10B8D 10B90 10BAD-10BAE 10D00-10D21 10D23 10EC3-10EC4
  10EC6-10EC7 10F30-10F32 10F34-10F44 10F51-10F53 10F70-10F73 10F76-10F81 10FB0 10FB2-10FB3 10FB8
  10FBB-10FBC 10FBE-10FBF 10FC1 10FC4 10FCA-10FCB 1E922-1E943"

/-- The letters that join the letter before them. -/
def joinBefore : CodePoints := .ofString "
  620 622-63F 641-64A 66E-66F 671-673 679-6D3 6D5 6EE-6EF 6FA-6FC 6FF 710 712-72F 74D-77F 7CA-7EA
  840-858 860 862-865 867-882 886 889-88F 8A0-8AC 8AE-8C8 1807 1820-1878 1887-18A8 18AA A840-A871
  10AC0-10AC5 10AC7 10AC9-10ACA 10ACE-10AD6 10AD8-10AE1 10AE4 10AEB-10AEF 10B80-10B91 10BA9-10BAE
  10D01-10D23 10EC2-10EC4 10EC6-10EC7 10F30-10F44 10F51-10F54 10F70-10F81 10FB0 10FB2-10FB6
  10FB8-10FBF 10FC1-10FC4 10FC9-10FCA 1E922-1E943"

/-- The characters that letters join across. -/
def isTransparent (c : Char) : Bool := Mark.isNonspacing c || c.toNat == 0x1E94B

/-- A joiner stands behind a virama, or a non-joiner between letters that would join.
`before` is the text before the joiner, in reverse. -/
def isJoinerInPlace (before : Text) (joiner : Char) (after : Text) : Bool :=
  before.head?.any (Composition.combiningClass · == 9) ||
    (joiner == '\u200C' && (before.find? (!isTransparent ·)).any joinAfter.contains &&
      (after.find? (!isTransparent ·)).any joinBefore.contains)

/-- Every joiner of the text, which stands behind `before`, is in its place. -/
def areJoinersInPlace (before : Text) : Text → Bool
  | [] => true
  | c :: s => (!isJoiner c || isJoinerInPlace before c s) && areJoinersInPlace (c :: before) s

/-- The characters of a label. -/
def isLabelText (s : Text) : Bool :=
  s.all (!isForbidden ·) && !s.head?.any Mark.isMark && areJoinersInPlace [] s &&
    (s.all (·.toNat < 128) || s.length ≤ 1000)

/-- The mapping of a domain leaves the text alone. -/
def isMapped (s : Text) : Bool :=
  s.all (fun c => mapChar? c == some [c]) && Composition.compose s == s

/-- The characters that a mapped label stands for. -/
def readLabel? (s : Text) : Option Text :=
  match Text.stripStart? "xn--".toList s with
  | none => if isLabelText s then some s else none
  | some encoded =>
    if 2000 < encoded.length then none
    else
      match Punycode.decode? encoded with
      | none => none
      | some chars =>
        if encoded.all (·.toNat < 128) && chars.any (128 ≤ ·.toNat) && isMapped chars &&
            isLabelText chars then some chars
        else none

end Domain
end Routing
