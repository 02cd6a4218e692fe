/-
# Templates

A template is text with parameters in braces, such as `/users/{id:integer}`.  The
text consists of `/` and of the characters that a path may hold, with
percent-encoded octets.  Between the braces stand a name and, behind a colon, a
kind: a word, or `array` with the kind of the items in angle brackets.  Spaces
and tabs may stand around names and kinds.

A template is read character by character.  Its place in the grammar tells what
may come next; a character that may not is reported with its position.  All
characters before it are ASCII, so positions count octets as well as characters,
and the octet that is reported is the first one of its encoding.
-/

import Routing.Token

namespace Routing

/-- What a template should go on with. -/
inductive Expectation where
  /-- A hexadecimal digit of an octet. -/
  | hexDigit
  /-- A character of the text between parameters. -/
  | pathCharacter
  /-- The name of a parameter. -/
  | parameterName
  /-- The kind of a parameter. -/
  | parameterKind
deriving DecidableEq

/-- The expectation in words. -/
def Expectation.words : Expectation → String
  | hexDigit => "a hex digit"
  | pathCharacter => "a path character"
  | parameterName => "a parameter name"
  | parameterKind => "a parameter kind"

/-- Why a text is no template. -/
inductive TemplateError where
  /-- A certain character should be here. -/
  | expectedExact (expected : Char) (actual : UInt8) (position : Nat)
  /-- A character of a certain use should be here. -/
  | expected (expected : Expectation) (actual : UInt8) (position : Nat)
  /-- The template ends too early. -/
  | endOfStream (position : Nat)
  /-- No kind has this name. -/
  | unknownKind (kind : Text) (position : Nat)
deriving DecidableEq

namespace TemplateError

/-- The octet that was met, and where. -/
def encountered (actual : UInt8) (position : Nat) : Text :=
  "encountered byte 0x".toList ++ Text.hexadecimal actual.toNat ++ " at position ".toList ++
    Text.decimal position ++ ", but expected ".toList

/-- The failure in words. -/
def message : TemplateError → String
  | expectedExact wanted actual position =>
    String.ofList (encountered actual position ++ "0x".toList ++ Text.hexadecimal wanted.toNat)
  | expected what actual position => String.ofList (encountered actual position) ++ what.words
  | endOfStream position =>
    "encountered unexpected end of stream at position " ++ String.ofList (Text.decimal position)
  | unknownKind kind position =>
    "unknown parameter kind \x60" ++ String.ofList kind ++ "\x60 at position " ++
      String.ofList (Text.decimal position)

end TemplateError

namespace Template

/-- A space or a tab. -/
def isSpace (c : Char) : Bool := c == ' ' || c == '\t'

/-- A character of the text between parameters that stands for itself. -/
def isLiteral (c : Char) : Bool := c.isAlphanum || "/-._~:@!$&'()*+,;=".toList.contains c

/-- A character that a name begins with. -/
def startsName (c : Char) : Bool := c.isAlpha || c == '_'

/-- A character that a name goes on with. -/
def continuesName (c : Char) : Bool := c.isAlphanum || c == '_'

/-- The first octet of a character. -/
def leadOctet (c : Char) : UInt8 := (String.utf8EncodeChar c).headD 0

/-- The decoder of a kind that is a single word. -/
def decoder? (word : Text) : Option Decoder :=
  if word = "string".toList then some .string
  else if word = "boolean".toList then some .boolean
  else if word = "integer".toList then some .integer
  else if word = "float".toList then some .float
  else if word = "date".toList then some .date
  else if word = "datetime".toList then some .datetime
  else none

/-- A place in the grammar. -/
inductive Place where
  /-- In the text between parameters; `text` is what was read of it, in reverse. -/
  | text (text : Text)
  /-- Before the first digit of an octet. -/
  | octet (text : Text)
  /-- Before the second digit of an octet. -/
  | octetDigit (text : Text)
  /-- Before a name. -/
  | beforeName
  /-- In a name; `name` is what was read of it, in reverse. -/
  | name (name : Text)
  /-- Behind a name. -/
  | afterName (name : Text)
  /-- Before a kind, in the angle brackets of `arrays` arrays. -/
  | beforeKind (name : Text) (arrays : Nat)
  /-- In a kind that begins at `start`; `word` is what was read of it, in reverse. -/
  | kind (name : Text) (arrays start : Nat) (word : Text)
  /-- Behind the word `array`. -/
  | afterArray (name : Text) (arrays : Nat)
  /-- Behind a kind. -/
  | afterKind (name : Text) (arrays : Nat) (decoder : Decoder)

/-- What was read of a template. -/
structure State where
  /-- The place in the grammar. -/
  place : Place := .text []
  /-- The complete tokens, the latest first. -/
  tokens : List Token := []

/-- The text between parameters as a token, unless it is empty. -/
def literalTokens (reversed : Text) : List Token :=
  if reversed.isEmpty then [] else [.literal reversed.reverse]

/-- Goes on at another place. -/
def State.at (st : State) (place : Place) : Except TemplateError State := .ok { st with place }

/-- Goes on behind a parameter. -/
def State.endParam (st : State) (name : Text) (decoder : Decoder) : Except TemplateError State :=
  .ok ⟨.text [], .param ⟨name, decoder⟩ :: st.tokens⟩

/-- Reads `c` in the text between parameters. -/
def readText (st : State) (text : Text) (position : Nat) (c : Char) : Except TemplateError State :=
  if c = '\x7b' then .ok ⟨.beforeName, literalTokens text ++ st.tokens⟩
  else if c = '%' then st.at (.octet (c :: text))
  else if isLiteral c then st.at (.text (c :: text))
  else .error (.expected .pathCharacter (leadOctet c) position)

/-- Reads `c` behind a name. -/
def readAfterName (st : State) (name : Text) (position : Nat) (c : Char) :
    Except TemplateError State :=
  if isSpace c then st.at (.afterName name)
  else if c = ':' then st.at (.beforeKind name 0)
  else if c = '\x7d' then st.endParam name .string
  else .error (.expectedExact '\x7d' (leadOctet c) position)

/-- Reads `c` behind the word `array`. -/
def readAfterArray (st : State) (name : Text) (arrays position : Nat) (c : Char) :
    Except TemplateError State :=
  if isSpace c then st.at (.afterArray name arrays)
  else if c = '<' then st.at (.beforeKind name (arrays + 1))
  else .error (.expectedExact '<' (leadOctet c) position)

/-- Reads `c` behind a kind. -/
def readAfterKind (st : State) (name : Text) (arrays : Nat) (decoder : Decoder) (position : Nat)
    (c : Char) : Except TemplateError State :=
  if isSpace c then st.at (.afterKind name arrays decoder)
  else
    match arrays with
    | 0 =>
      if c = '\x7d' then st.endParam name decoder
      else .error (.expectedExact '\x7d' (leadOctet c) position)
    | arrays + 1 =>
      if c = '>' then st.at (.afterKind name arrays (.array decoder))
      else .error (.expectedExact '>' (leadOctet c) position)

/-- Reads `c` behind the last letter of a kind. -/
def readBehindWord (st : State) (name : Text) (arrays start : Nat) (word : Text) (position : Nat)
    (c : Char) : Except TemplateError State :=
  if word = "array".toList then readAfterArray st name arrays position c
  else
    match decoder? word with
    | some decoder => readAfterKind st name arrays decoder position c
    | none => .error (.unknownKind word start)

/-- Reads the character at a position. -/
def step (st : State) (position : Nat) (c : Char) : Except TemplateError State :=
  match st.place with
  | .text text => readText st text position c
  | .octet text =>
    if (Text.hexValue? c).isSome then st.at (.octetDigit (c :: text))
    else .error (.expected .hexDigit (leadOctet c) position)
  | .octetDigit text =>
    if (Text.hexValue? c).isSome then st.at (.text (c :: text))
    else .error (.expected .hexDigit (leadOctet c) position)
  | .beforeName =>
    if isSpace c then st.at .beforeName
    else if startsName c then st.at (.name [c])
    else .error (.expected .parameterName (leadOctet c) position)
  | .name name =>
    if continuesName c then st.at (.name (c :: name))
    else readAfterName st name.reverse position c
  | .afterName name => readAfterName st name position c
  | .beforeKind name arrays =>
    if isSpace c then st.at (.beforeKind name arrays)
    else if c.isAlpha then st.at (.kind name arrays position [c])
    else .error (.expected .parameterKind (leadOctet c) position)
  | .kind name arrays start word =>
    if c.isAlpha then st.at (.kind name arrays start (c :: word))
    else readBehindWord st name arrays start word.reverse position c
  | .afterArray name arrays => readAfterArray st name arrays position c
  | .afterKind name arrays decoder => readAfterKind st name arrays decoder position c

/-- Ends a template at a position. -/
def finish (st : State) (position : Nat) : Except TemplateError (List Token) :=
  match st.place with
  | .text text => .ok (literalTokens text ++ st.tokens).reverse
  | .kind _ _ start word =>
    if word.reverse = "array".toList ∨ (decoder? word.reverse).isSome then
      .error (.endOfStream position)
    else .error (.unknownKind word.reverse start)
  | _ => .error (.endOfStream position)

/-- Reads the rest of a template from a position on. -/
def read (st : State) (position : Nat) : Text → Except TemplateError (List Token)
  | [] => finish st position
  | c :: s =>
    match step st position c with
    | .ok st => read st (position + 1) s
    | .error e => .error e

/-- The tokens of a template. -/
def parse (s : Text) : Except TemplateError (List Token) := read {} 0 s

end Template
end Routing
