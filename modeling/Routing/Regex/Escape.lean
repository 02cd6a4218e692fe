/-
# Escapes

A backslash makes a character with a meaning stand for itself and gives some
letters one: control characters, code points, classes, and properties of places.
`quote` writes a text so that it matches itself alone.
-/

import Routing.Regex.Expr
import Routing.Regex.Flags
import Routing.Regex.Property

namespace Routing
namespace Regex

/-- The characters that have a meaning in an expression. -/
def isMeta (c : Char) : Bool := "\\.+*?()|[]\x7b\x7d^$#&-~".toList.contains c

/-- The expression that matches `s` alone. -/
def quote (s : Text) : Text := s.flatMap fun c => if isMeta c then ['\\', c] else [c]

/-- What an escape stands for. -/
inductive Escape where
  /-- A character. -/
  | literal (c : Char)
  /-- A set of characters. -/
  | set (set : CharSet)
  /-- A property of a place. -/
  | look (look : Look)

namespace Escape

/-- The character with the code point. -/
def ofCodePoint? (n : Nat) : Option Escape :=
  if n.isValidChar then some (literal (Char.ofNat n)) else none

/-- The text between braces behind an opening one. -/
def braced? (flags : Flags) (s : Text) : Option (Text × Text) :=
  match flags.takeWhile (· != '\x7d') s with
  | (name, _ :: rest) => some (name, rest)
  | (_, []) => none

/-- The value of `n` hexadecimal digits behind the digits of `value`. -/
def hexDigits? (flags : Flags) (value : Nat) : Nat → Text → Option (Nat × Text)
  | 0, s => some (value, s)
  | n + 1, s =>
    match flags.skip s with
    | [] => none
    | c :: s => (Text.hexValue? c).bind fun d => hexDigits? flags (16 * value + d) n s

/-- A code point in braces or as `n` hexadecimal digits.  Without Unicode two
digits stand for an octet, which has to be ASCII. -/
def codePoint? (flags : Flags) (n : Nat) (s : Text) : Option (Escape × Text) :=
  match flags.skip s with
  | '\x7b' :: s =>
    (braced? flags s).bind fun (digits, rest) =>
      if digits.isEmpty then none
      else ((Text.hexDigitsValue? digits).bind ofCodePoint?).map (·, rest)
  | s =>
    (hexDigits? flags 0 n s).bind fun (value, rest) =>
      if n = 2 ∧ !flags.unicode ∧ 128 ≤ value then none
      else (ofCodePoint? value).map (·, rest)

/-- A property in braces or of one letter. -/
def property? (flags : Flags) (negated : Bool) (s : Text) : Option (Escape × Text) :=
  let named (name rest : Text) :=
    if !flags.unicode then none
    else
      (Property.read? name).bind fun known =>
        (flags.complement? negated (flags.fold known)).map fun found => (set found, rest)
  match flags.skip s with
  | [] => none
  | '\x7b' :: s => (braced? flags s).bind fun (name, rest) => named name rest
  | c :: s => if c = '\\' then none else named [c] s

/-- A boundary of words.  Braces behind it that begin with a letter or `-` tell
which one. -/
def wordBoundary? (flags : Flags) (s : Text) : Option (Escape × Text) :=
  match s with
  | '\x7b' :: inner =>
    match flags.skip inner with
    | [] => none
    | c :: _ =>
      if c.isAlpha || c == '-' then
        (braced? flags inner).bind fun (name, rest) =>
          if name = "start".toList then some (look .wordStart, rest)
          else if name = "end".toList then some (look .wordEnd, rest)
          else if name = "start-half".toList then some (look .wordStartHalf, rest)
          else if name = "end-half".toList then some (look .wordEndHalf, rest)
          else none
      else some (look .wordBoundary, s)
  | _ => some (look .wordBoundary, s)

/-- A class of one letter, or its complement for the uppercase letter. -/
def perl? (flags : Flags) (c : Char) : Option Escape :=
  let known :=
    if c.toLower = 'd' then some CharSet.digit
    else if c.toLower = 's' then some CharSet.space
    else if c.toLower = 'w' then some CharSet.word
    else none
  known.bind fun known => (flags.complement? c.isUpper known).map set

/-- A single character with a meaning of its own behind a backslash. -/
def simple? (c : Char) : Option Escape :=
  if c = 'a' then some (literal '\x07')
  else if c = 'f' then some (literal '\x0C')
  else if c = 't' then some (literal '\t')
  else if c = 'n' then some (literal '\n')
  else if c = 'r' then some (literal '\r')
  else if c = 'v' then some (literal '\x0B')
  else if c = 'A' then some (look .textStart)
  else if c = 'z' then some (look .textEnd)
  else if c = 'B' then some (look .notWordBoundary)
  else if c = '<' then some (look .wordStart)
  else if c = '>' then some (look .wordEnd)
  else if c.toNat < 128 && !c.isAlphanum then some (literal c)
  else none

/-- Reads what follows a backslash. -/
def read? (flags : Flags) : Text → Option (Escape × Text)
  | [] => none
  | c :: s =>
    if c = 'x' then codePoint? flags 2 s
    else if c = 'u' then codePoint? flags 4 s
    else if c = 'U' then codePoint? flags 8 s
    else if c = 'p' then property? flags false s
    else if c = 'P' then property? flags true s
    else if c = 'b' then wordBoundary? flags s
    else if "dDsSwW".toList.contains c then (perl? flags c).map (·, s)
    else (simple? c).map (·, s)

end Escape
end Regex
end Routing
