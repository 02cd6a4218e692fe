/-
# Tokens

A pattern is a list of tokens: text that is matched as it is, and parameters.
Joining tokens leaves out empty literals and makes one literal of those that
follow each other.
-/

import Routing.Decoder

namespace Routing

/-- A named place for a value. -/
structure Param where
  /-- The name. -/
  name : Text
  /-- Reads and writes the value. -/
  decoder : Decoder

/-- The parameter as a template shows it.  Strings are the kind that is not named. -/
def Param.display (p : Param) : Text :=
  if p.decoder.kind = "string".toList then '\x7b' :: p.name ++ ['\x7d']
  else '\x7b' :: p.name ++ ':' :: p.decoder.kind ++ ['\x7d']

/-- A part of a pattern. -/
inductive Token where
  /-- Text that is matched as it is. -/
  | literal (s : Text)
  /-- A parameter. -/
  | param (p : Param)

namespace Token

/-- The token as a template shows it. -/
def display : Token → Text
  | literal s => s
  | param p => p.display

/-- The parameter of a token. -/
def param? : Token → Option Param
  | literal _ => none
  | param p => some p

/-- The tokens with one more in front. -/
def push : Token → List Token → List Token
  | literal [], tokens => tokens
  | literal s, literal t :: tokens => literal (s ++ t) :: tokens
  | token, tokens => token :: tokens

/-- The tokens without empty literals, with neighbouring literals in one. -/
def join (tokens : List Token) : List Token := tokens.foldr push []

/-- The tokens with a `/` at the front. -/
def rooted : List Token → List Token
  | literal ('/' :: s) :: tokens => literal ('/' :: s) :: tokens
  | literal s :: tokens => literal ('/' :: s) :: tokens
  | tokens => literal ['/'] :: tokens

/-- The parameters in order. -/
def params (tokens : List Token) : List Param := tokens.filterMap param?

end Token
end Routing
