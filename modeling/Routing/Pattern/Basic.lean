/-
# Patterns

A pattern is compiled from literals, parameters and other patterns, whose tokens
are spliced in.  Its tokens begin with `/`, and no two parameters have the same
name.

Tokens become a regular expression for a whole path: literals match themselves,
and the `i`-th parameter is a group `pi` of its decoder's matcher.  A matcher has
to be an expression on its own and inside the whole.  It may still change how
the rest is read, by a comment that goes on behind it, so the groups are looked
up in the expression that was read.
-/

import Routing.Regex.Reading
import Routing.Template
import Routing.Text.Quoted

namespace Routing

/-- Why tokens are no pattern. -/
inductive CompileError where
  /-- Parameters have the same name. -/
  | duplicateParameters (names : List Text)
  /-- The matcher of a parameter is no regular expression. -/
  | invalidMatcher (name : Text)
  /-- The matchers do not make up a regular expression together. -/
  | regex
  /-- A parameter has no group in the whole expression. -/
  | lostGroup
deriving DecidableEq

namespace CompileError

/-- The failure in words. -/
def message : CompileError → String
  | duplicateParameters names =>
    "duplicate parameter names: " ++ String.ofList (", ".toList.intercalate names)
  | invalidMatcher name =>
    "matcher of parameter \x60" ++ String.ofList name ++ "\x60 is not a valid regex"
  | regex => "failed to compile route regex"
  | lostGroup => "a parameter has no group in the route regex"

end CompileError

namespace Token

/-- The names that occur more than once, in the order in which they occur for the
second time; `seen` is what stands before the list. -/
def repeatedNames (seen : List Text) : List Text → List Text
  | [] => []
  | name :: names =>
    if seen.count name = 1 then name :: repeatedNames (name :: seen) names
    else repeatedNames (name :: seen) names

/-- The name of the group of the `i`-th parameter. -/
def groupName (i : Nat) : Text := 'p' :: Text.decimal i

/-- The regular expression of tokens with `i` parameters before them. -/
def sourceFrom (i : Nat) : List Token → Text
  | [] => []
  | literal s :: tokens => Regex.quote s ++ sourceFrom i tokens
  | param p :: tokens =>
    "(?P<".toList ++ groupName i ++ '>' :: p.decoder.matcher ++ ')' :: sourceFrom (i + 1) tokens

/-- The regular expression of a path that tokens match. -/
def source (tokens : List Token) : Text := '^' :: sourceFrom 0 tokens ++ ['$']

/-- The regular expression of tokens, and the group of each parameter. -/
def compile (tokens : List Token) : Except CompileError (Regex × List Nat) :=
  match (params tokens).find? fun p => (Regex.compile? p.decoder.matcher).isNone with
  | some p => .error (.invalidMatcher p.name)
  | none =>
    match Regex.compile? (source tokens) with
    | none => .error .regex
    | some r =>
      match (List.range (params tokens).length).mapM fun i => r.expr.groupIndex? (groupName i) with
      | none => .error .lostGroup
      | some groups => .ok (r, groups)

end Token

/-- A compiled pattern. -/
structure Pattern where
  /-- The tokens. -/
  tokens : List Token
  /-- The regular expression of the paths that match. -/
  regex : Regex
  /-- The number of the group of each parameter, in order. -/
  groups : List Nat
  /-- The expression and the groups are those of the tokens. -/
  compiled : Token.compile tokens = .ok (regex, groups)

/-- What a pattern is made of. -/
inductive Segment where
  /-- Text that is matched as it is. -/
  | literal (s : Text)
  /-- A parameter. -/
  | param (p : Param)
  /-- Another pattern. -/
  | pattern (p : Pattern)

namespace Segment

/-- The tokens that a segment contributes. -/
def tokens : Segment → List Token
  | literal s => [.literal s]
  | param p => [.param p]
  | pattern p => p.tokens

/-- The segment that contributes one token. -/
def ofToken : Token → Segment
  | .literal s => literal s
  | .param p => param p

end Segment

/-- Why a template is no pattern. -/
inductive PatternError where
  /-- It is no template. -/
  | template (cause : TemplateError)
  /-- Its tokens are no pattern. -/
  | compile (cause : CompileError)
deriving DecidableEq

namespace Pattern

/-- The pattern with the tokens. -/
def ofTokens (tokens : List Token) : Except CompileError Pattern :=
  match Token.repeatedNames [] ((Token.params tokens).map Param.name) with
  | [] =>
    match h : Token.compile tokens with
    | .ok (regex, groups) => .ok ⟨tokens, regex, groups, h⟩
    | .error e => .error e
  | names => .error (.duplicateParameters names)

/-- Compiles segments. -/
def compile (segments : List Segment) : Except CompileError Pattern :=
  ofTokens (Token.rooted (Token.join (segments.flatMap Segment.tokens)))

/-- Compiles a template. -/
def parse (template : Text) : Except PatternError Pattern :=
  match Template.parse template with
  | .error e => .error (.template e)
  | .ok tokens => (compile (tokens.map Segment.ofToken)).mapError .compile

/-- The parameters in order. -/
def params (p : Pattern) : List Param := Token.params p.tokens

/-- The template of the pattern. -/
def display (p : Pattern) : Text := p.tokens.flatMap Token.display

/-- The pattern as it is shown to developers: its template and its regular
expression. -/
def debugText (p : Pattern) : Text :=
  "Pattern \x7b template: ".toList ++ Quoted.encode p.display ++ ", regex: ".toList ++
    Quoted.encode p.regex.source ++ " \x7d".toList

end Pattern
end Routing
