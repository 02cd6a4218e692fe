/-
# Reading JSON

Values are read by the grammar of JSON, at most 127 lists and objects deep.
Of members with one key the last one counts.  A value that is to be skipped is
read leniently: it may nest deeper, and its numbers and surrogates are not
checked.
-/

import Routing.Json.Number

namespace Routing
namespace Json

/-- A blank between tokens. -/
def isSpace (c : Char) : Bool := c == ' ' || c == '\t' || c == '\n' || c == '\r'

/-- The text from the next token on. -/
def skipSpace (s : Text) : Text := s.dropWhile isSpace

/-- The character of an escape of one letter. -/
def escaped? (c : Char) : Option Char :=
  if c = '"' ∨ c = '\\' ∨ c = '/' then some c
  else if c = 'b' then some '\x08'
  else if c = 'f' then some '\x0C'
  else if c = 'n' then some '\n'
  else if c = 'r' then some '\r'
  else if c = 't' then some '\t'
  else none

/-- Puts a character in front of a string that was read. -/
def consChar (c : Char) (read : Option (Text × Text)) : Option (Text × Text) :=
  read.map fun (chars, rest) => (c :: chars, rest)

/-- The characters of a string behind its opening quote, and the text behind the
closing one. -/
def stringBody? (lenient : Bool) : Text → Option (Text × Text)
  | [] => none
  | '"' :: s => some ([], s)
  | '\\' :: 'u' :: a :: b :: c :: d :: s =>
    match Text.hexDigitsValue? [a, b, c, d] with
    | none => none
    | some n =>
      if 0xD800 ≤ n ∧ n ≤ 0xDBFF ∧ !lenient then
        match s with
        | '\\' :: 'u' :: e :: f :: g :: h :: s =>
          match Text.hexDigitsValue? [e, f, g, h] with
          | none => none
          | some m =>
            if 0xDC00 ≤ m ∧ m ≤ 0xDFFF then
              consChar (Char.ofNat (0x10000 + (n - 0xD800) * 0x400 + (m - 0xDC00)))
                (stringBody? lenient s)
            else none
        | _ => none
      else if 0xDC00 ≤ n ∧ n ≤ 0xDFFF ∧ !lenient then none
      else consChar (Char.ofNat n) (stringBody? lenient s)
  | '\\' :: c :: s =>
    match escaped? c with
    | none => none
    | some c => consChar c (stringBody? lenient s)
  | c :: s => if c.toNat < 0x20 ∨ c = '\\' then none else consChar c (stringBody? lenient s)

/-- The string that `s` begins with, and the text behind it. -/
def string? (lenient : Bool) (s : Text) : Option (Text × Text) :=
  match skipSpace s with
  | '"' :: s => stringBody? lenient s
  | _ => none

/-- One or more things that `element` reads, separated by commas, up to `close`.
The fuel bounds how many there are. -/
def elements? {α : Type} (close : Char) (element : Text → Option (α × Text)) :
    Nat → Text → Option (List α × Text)
  | 0, _ => none
  | fuel + 1, s =>
    match element s with
    | none => none
    | some (x, s) =>
      match skipSpace s with
      | [] => none
      | c :: s =>
        if c = ',' then (elements? close element fuel s).map fun (xs, rest) => (x :: xs, rest)
        else if c = close then some ([x], s)
        else none

/-- The things that `element` reads behind an opening bracket, which may be none. -/
def enclosed? {α : Type} (close : Char) (element : Text → Option (α × Text)) (s : Text) :
    Option (List α × Text) :=
  match skipSpace s with
  | [] => none
  | c :: rest => if c = close then some ([], rest) else elements? close element s.length s

/-- A key, a colon and what `value` reads for that key. -/
def member? {α : Type} (lenient : Bool) (value : Text → Text → Option (α × Text)) (s : Text) :
    Option ((Text × α) × Text) :=
  match string? lenient s with
  | none => none
  | some (key, s) =>
    match skipSpace s with
    | ':' :: s => (value key s).map fun (x, rest) => ((key, x), rest)
    | _ => none

/-- A number that is skipped: only its form counts. -/
def skipNumber? (s : Text) : Option Text :=
  let isDigit (c : Char) := '0' ≤ c && c ≤ '9'
  let s := if s.head? = some '-' then s.drop 1 else s
  let whole := s.takeWhile isDigit
  let rest := s.drop whole.length
  if whole.isEmpty || (whole.head? == some '0' && 1 < whole.length) then none
  else
    match rest with
    | '.' :: more =>
      if (more.takeWhile isDigit).isEmpty then none
      else (Number.exponent? (more.dropWhile isDigit)).map (·.2)
    | _ => (Number.exponent? rest).map (·.2)

/-- A value that is neither a list nor an object; `s` begins with it. -/
def scalar? (lenient : Bool) (s : Text) : Option (Json × Text) :=
  match s with
  | '"' :: s => (stringBody? lenient s).map fun (chars, rest) => (string chars, rest)
  | 'n' :: s => (Text.stripStart? "ull".toList s).map (null, ·)
  | 't' :: s => (Text.stripStart? "rue".toList s).map (boolean true, ·)
  | 'f' :: s => (Text.stripStart? "alse".toList s).map (boolean false, ·)
  | _ =>
    if lenient then (skipNumber? s).map (number (.integer 0), ·)
    else (Number.read? s).map fun (n, rest) => (number n, rest)

/-- The value that `s` begins with, and the text behind it.  Lists and objects
nest at most `depth` deep. -/
def value? (lenient : Bool) : Nat → Text → Option (Json × Text)
  | 0, s => scalar? lenient (skipSpace s)
  | depth + 1, s =>
    match skipSpace s with
    | '[' :: s => (enclosed? ']' (value? lenient depth) s).map fun (xs, rest) => (array xs, rest)
    | '\x7b' :: s =>
      let members? := enclosed? '\x7d' (member? lenient fun _ => value? lenient depth) s
      members?.map fun (members, rest) => (object (Dictionary.ofList members).entries, rest)
    | s => scalar? lenient s

/-- How deep lists and objects may nest. -/
def depthLimit : Nat := 127

/-- The value that `s` is the text of. -/
def parse? (s : Text) : Option Json :=
  match value? false depthLimit s with
  | some (v, rest) => if (skipSpace rest).isEmpty then some v else none
  | none => none

end Json
end Routing
