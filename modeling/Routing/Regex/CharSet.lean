/-
# Sets of characters

A regular expression matches one character by the set that it belongs to.  The
expressions of this library read the path of a URL, which holds ASCII only, so
the classes of letters, digits and blanks list their members in ASCII.
-/

import Routing.Text.Basic

namespace Routing
namespace Regex

/-- A set of characters. -/
abbrev CharSet := Char → Bool

namespace CharSet

/-- No character. -/
def empty : CharSet := fun _ => false

/-- Every character. -/
def all : CharSet := fun _ => true

/-- The characters of a list. -/
def ofList (cs : Text) : CharSet := cs.contains

/-- One character. -/
def one (c : Char) : CharSet := (· == c)

/-- The characters from `low` to `high`. -/
def range (low high : Char) : CharSet := fun c => low ≤ c && c ≤ high

/-- The characters of either set. -/
def union (a b : CharSet) : CharSet := fun c => a c || b c

/-- The characters of both sets. -/
def inter (a b : CharSet) : CharSet := fun c => a c && b c

/-- The characters of the first set that are not in the second. -/
def diff (a b : CharSet) : CharSet := fun c => a c && !b c

/-- The characters of exactly one of the sets. -/
def symmDiff (a b : CharSet) : CharSet := fun c => a c != b c

/-- The characters outside the set. -/
def compl (a : CharSet) : CharSet := fun c => !a c

/-- The letter of the other case. -/
def swapCase (c : Char) : Char := if c.isLower then c.toUpper else c.toLower

/-- The characters that differ from `c` in case only.  Beyond ASCII, `s` has the
variant `ſ` and `k` the sign of the kelvin. -/
def variants (unicode : Bool) (c : Char) : List Char :=
  if c.isAlpha then
    let beyond :=
      if c = 's' ∨ c = 'S' then ['\u017F'] else if c = 'k' ∨ c = 'K' then ['\u212A'] else []
    swapCase c :: if unicode then beyond else []
  else if !unicode then []
  else if c = '\u017F' then ['s', 'S']
  else if c = '\u212A' then ['k', 'K']
  else []

/-- The set with the case variants of its members. -/
def folded (unicode : Bool) (a : CharSet) : CharSet :=
  fun c => a c || (variants unicode c).any a

/-- The lowercase letters. -/
def lower : CharSet := range 'a' 'z'

/-- The uppercase letters. -/
def upper : CharSet := range 'A' 'Z'

/-- The letters. -/
def alpha : CharSet := union lower upper

/-- The decimal digits. -/
def digit : CharSet := range '0' '9'

/-- The letters and digits. -/
def alnum : CharSet := union alpha digit

/-- The characters of a word: letters, digits and `_`. -/
def word : CharSet := union alnum (one '_')

/-- The blanks. -/
def space : CharSet := union (one ' ') (range '\t' '\r')

/-- The control characters. -/
def control : CharSet := union (range '\x00' '\x1F') (one '\x7F')

/-- The characters of ASCII. -/
def ascii : CharSet := range '\x00' '\x7F'

/-- The characters that print ink. -/
def graph : CharSet := range '!' '~'

/-- The class of a name that is written between `[:` and `:]`. -/
def ofName? (name : Text) : Option CharSet :=
  [("alnum", alnum), ("alpha", alpha), ("ascii", ascii), ("blank", ofList " \t".toList),
    ("cntrl", control), ("digit", digit), ("graph", graph), ("lower", lower),
    ("print", range ' ' '~'), ("punct", diff graph alnum), ("space", space), ("upper", upper),
    ("word", word), ("xdigit", union digit (union (range 'a' 'f') (range 'A' 'F')))].findSome?
    fun (known, set) => if known.toList == name then some set else none

end CharSet
end Regex
end Routing
