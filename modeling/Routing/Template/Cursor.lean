/-
# Reading a template with a cursor

A template can also be read from its octets, with a cursor on the next octet and
an anchor where the current literal begins.  The cursor goes ahead octet by octet
and takes back an octet that does not fit; names, words and literals are cut out
between two places of it.

Such a reader could go wrong: a slice could lie outside of the octets, the cursor
could be taken back from the first octet, and a loop could go on for ever.  It is
a fault if one of these happens, which is told apart from a text that is no
template.
-/

import Routing.Template
import Routing.Text.Utf8

namespace Routing
namespace Template

/-- How reading with a cursor goes wrong. -/
inductive Fault where
  /-- A slice does not lie within the octets. -/
  | outOfRange
  /-- The cursor is taken back from the first octet. -/
  | underflow
  /-- There are more rounds than octets. -/
  | endless
deriving DecidableEq

/-- Why reading with a cursor gives no tokens. -/
inductive Stop where
  /-- The reader went wrong. -/
  | fault (cause : Fault)
  /-- The octets are no template. -/
  | refused (cause : TemplateError)
deriving DecidableEq

namespace Cursor

/-- The character with the number of an octet. -/
def charOf (b : UInt8) : Char := Char.ofNat b.toNat

/-- The place before the last octet that was taken. -/
def stepBack : Nat → Except Stop Nat
  | 0 => .error (.fault .underflow)
  | position + 1 => .ok position

/-- Takes back an octet that does not fit. -/
def refuse {α : Type} (wanted : Expectation) (b : UInt8) (position : Nat) : Except Stop α := do
  let position ← stepBack position
  .error (.refused (.expected wanted b position))

section Reading

variable (octets : List UInt8)

/-- The text between two places. -/
def slice (start stop : Nat) : Except Stop Text :=
  if start ≤ stop ∧ stop ≤ octets.length then
    .ok (Utf8.decodeLossy ((octets.take stop).drop start))
  else .error (.fault .outOfRange)

/-- The next octet and the place behind it. -/
def take (position : Nat) : Except Stop (UInt8 × Nat) :=
  match octets[position]? with
  | some b => .ok (b, position + 1)
  | none => .error (.refused (.endOfStream position))

/-- The place behind a certain character. -/
def consume (wanted : Char) (position : Nat) : Except Stop Nat :=
  match octets[position]? with
  | some b =>
    if charOf b = wanted then .ok (position + 1)
    else .error (.refused (.expectedExact wanted b position))
  | none => .error (.refused (.endOfStream position))

/-- The place of the next octet that has not the property. -/
def skipWhile (p : Char → Bool) (position : Nat) : Nat :=
  position + ((octets.drop position).takeWhile fun b => p (charOf b)).length

/-- The place behind spaces. -/
def skipSpaces (position : Nat) : Nat := skipWhile octets isSpace position

/-- A name and the place behind it. -/
def name (position : Nat) : Except Stop (Text × Nat) := do
  let (first, behind) ← take octets position
  if startsName (charOf first) then
    let stop := skipWhile octets continuesName behind
    let word ← slice octets position stop
    .ok (word, stop)
  else refuse .parameterName first behind

/-- A kind and the place behind it.  The rounds bound how deep arrays nest. -/
def kind : Nat → Nat → Except Stop (Decoder × Nat)
  | 0, _ => .error (.fault .endless)
  | rounds + 1, start => do
    let stop := skipWhile octets Char.isAlpha start
    let word ← slice octets start stop
    if word = "array".toList then
      let position ← consume octets '<' (skipSpaces octets stop)
      let (element, position) ← kind rounds (skipSpaces octets position)
      let position ← consume octets '>' (skipSpaces octets position)
      .ok (.array element, position)
    else
      match decoder? word with
      | some decoder => .ok (decoder, stop)
      | none =>
        if word.isEmpty then
          let (actual, behind) ← take octets stop
          refuse .parameterKind actual behind
        else .error (.refused (.unknownKind word start))

/-- The decoder of a parameter, whose name ends at the place, and the place
behind its kind. -/
def decoder (position : Nat) : Except Stop (Decoder × Nat) :=
  match consume octets ':' position with
  | .ok position => do
    let (decoder, position) ← kind octets (octets.length + 1) (skipSpaces octets position)
    .ok (decoder, skipSpaces octets position)
  | .error _ => .ok (.string, position)

/-- The parameter behind a brace, and the place behind its other brace. -/
def param (position : Nat) : Except Stop (Param × Nat) := do
  let (name, position) ← name octets (skipSpaces octets position)
  let (decoder, position) ← decoder octets (skipSpaces octets position)
  let position ← consume octets '\x7d' position
  .ok (⟨name, decoder⟩, position)

/-- The place behind a hexadecimal digit. -/
def hexDigit (position : Nat) : Except Stop Nat := do
  let (digit, behind) ← take octets position
  if (Text.hexValue? (charOf digit)).isSome then .ok behind else refuse .hexDigit digit behind

/-- The place behind a character of a path. -/
def pathChar (position : Nat) : Except Stop Nat := do
  let (first, behind) ← take octets position
  if charOf first = '%' then
    let behind ← hexDigit octets behind
    hexDigit octets behind
  else if isLiteral (charOf first) then .ok behind
  else refuse .pathCharacter first behind

/-- The tokens, the latest first, with the literal between two places unless it
is empty. -/
def flush (anchor position : Nat) (tokens : List Token) : Except Stop (List Token) := do
  let literal ← slice octets anchor position
  .ok (if literal.isEmpty then tokens else .literal literal :: tokens)

/-- Reads on from a place in a literal that begins at the anchor. -/
def loop : Nat → Nat → Nat → List Token → Except Stop (List Token)
  | 0, _, _, _ => .error (.fault .endless)
  | rounds + 1, anchor, position, tokens =>
    match octets[position]? with
    | none => (flush octets anchor position tokens).map List.reverse
    | some b =>
      if charOf b = '\x7b' then do
        let tokens ← flush octets anchor position tokens
        let (param, position) ← param octets (position + 1)
        loop rounds position position (.param param :: tokens)
      else do
        let position ← pathChar octets position
        loop rounds anchor position tokens

/-- The tokens of a template. -/
def parse : Except Stop (List Token) := loop octets (octets.length + 1) 0 0 []

end Reading

end Cursor
end Template
end Routing
