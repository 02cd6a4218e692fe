/-
# The normal form of a pattern

The tokens of a pattern can be put together as they come in, segment by segment
(`Segment.flatten`): text goes on with the last token if that is a literal, and empty text is left
out.  At any time the tokens are those that joining all of them gives (`foldl_append`), so behind
the last segment only the front has to be put in order.

Hence the tokens of every pattern begin with a slash and are joined, and their names are different
and in the order of the segments.  What the pattern shows is what the segments show, one behind
the other, with a slash in front where it is missing (`isNormalForm_of_compile`).

Joining goes from the last token to the first, and putting together from the first to the last.
They meet at a single token behind joined ones (`append_eq_join`), where what matters is whether
the last of these is a literal.
-/

import Routing.Proofs.Pattern.Repetition
import Routing.Proofs.Pattern.Splicing

namespace Routing
namespace Token

variable {tokens : List Token}

/-- The tokens with one more behind.  Text goes on with the last token if that is a literal. -/
def append : List Token → Token → List Token
  | tokens, literal [] => tokens
  | [], token => [token]
  | [literal s], literal t => [literal (s ++ t)]
  | first :: tokens, token => first :: append tokens token

section Append

/-- A token that is not empty text stands alone. -/
theorem push_nil {token : Token} (h : token ≠ literal []) : push token [] = [token] := by
  cases token with
  | literal s =>
    cases s with
    | nil => exact absurd rfl h
    | cons c s => rfl
  | param p => rfl

/-- Text stays as it is in front of a parameter. -/
theorem push_literal_cons_param {s : Text} (h : s ≠ []) (p : Param) (tokens : List Token) :
    push (literal s) (param p :: tokens) = literal s :: param p :: tokens := by
  cases s with
  | nil => exact absurd rfl h
  | cons c s => rfl

/-- Behind a parameter, tokens go on as they would without it. -/
theorem append_cons_param (p : Param) (tokens : List Token) (token : Token) :
    append (param p :: tokens) token = param p :: append tokens token := by
  cases token with
  | literal s => cases s <;> simp [append]
  | param q => simp [append]

/-- **One token more behind joined tokens is joined with them.** -/
theorem append_eq_join (h : IsJoined tokens) (token : Token) :
    append tokens token = join (tokens ++ [token]) := by
  fun_induction append tokens token with
  | case1 tokens =>
    rw [join_append]
    exact (join_eq_self h).symm
  | case2 token hne => exact (push_nil hne).symm
  | case3 s t hne =>
    have hst : literal (s ++ t) ≠ literal [] := fun heq =>
      h.1 (List.append_eq_nil_iff.mp (literal.inj heq)).1
    show _ = push (literal s) (push (literal t) [])
    rw [push_literal_push_literal, push_nil hst]
  | case4 first tokens token hne hlast ih =>
    show _ = push first (join (tokens ++ [token]))
    cases first with
    | param p =>
      rw [ih h]
      rfl
    | literal s =>
      obtain ⟨hs, hhead, htokens⟩ := h
      -- The literal is not the last token, so a parameter follows it.
      have hparam : ∃ p rest, append tokens token = param p :: rest := by
        cases tokens with
        | nil =>
          cases token with
          | literal t => exact (hlast s t rfl rfl rfl).elim
          | param p => exact ⟨p, [], rfl⟩
        | cons next tokens =>
          cases next with
          | literal t => exact absurd rfl (hhead t)
          | param p => exact ⟨p, _, append_cons_param p tokens token⟩
      obtain ⟨p, rest, heq⟩ := hparam
      rw [← ih htokens, heq, push_literal_cons_param hs]

/-- **Tokens that come in one by one are joined on the way.** -/
theorem foldl_append (h : IsJoined tokens) (more : List Token) :
    more.foldl append tokens = join (tokens ++ more) := by
  induction more generalizing tokens with
  | nil => rw [List.foldl_nil, List.append_nil, join_eq_self h]
  | cons token more ih =>
    rw [List.foldl_cons, append_eq_join h, ih (isJoined_join _), join_join_append,
      List.append_assoc, List.singleton_append]

end Append

section Display

/-- Joining a token to others does not change what they show. -/
theorem display_push (token : Token) (tokens : List Token) :
    (push token tokens).flatMap display = token.display ++ tokens.flatMap display := by
  unfold push
  split
  case h_1 => rfl
  case h_2 => simp [display]
  case h_3 => rfl

/-- Joining changes nothing of what tokens show. -/
theorem display_join (tokens : List Token) :
    (join tokens).flatMap display = tokens.flatMap display := by
  induction tokens with
  | nil => rfl
  | cons token tokens ih =>
    show (push token (join tokens)).flatMap display = _
    rw [display_push, ih, List.flatMap_cons]

end Display

end Token

namespace Segment

/-- The template that a segment shows. -/
def display : Segment → Text
  | literal s => s
  | param p => p.display
  | pattern p => p.display

/-- The tokens of segments, put together as they come in. -/
def flatten (segments : List Segment) : List Token :=
  segments.foldl (fun tokens segment => segment.tokens.foldl Token.append tokens) []

/-- Putting segments together one by one is joining the tokens of all of them. -/
theorem flatten_eq_join (segments : List Segment) :
    flatten segments = Token.join (segments.flatMap tokens) := by
  have hnil : Token.IsJoined [] := trivial
  rw [flatten, ← List.foldl_flatMap, Token.foldl_append hnil, List.nil_append]

/-- The tokens of a segment show what the segment shows. -/
theorem display_tokens (segment : Segment) :
    segment.tokens.flatMap Token.display = segment.display := by
  cases segment with
  | literal s => exact List.append_nil s
  | param p => exact List.append_nil p.display
  | pattern p => rfl

/-- Segments show the same one by one and put together. -/
theorem display_flatten (segments : List Segment) :
    (flatten segments).flatMap Token.display = segments.flatMap display := by
  rw [flatten_eq_join, Token.display_join, List.flatMap_assoc]
  simp only [display_tokens]

end Segment

namespace Pattern

/-- A pattern in the form in which it is compiled from segments. -/
structure IsNormalForm (segments : List Segment) (p : Pattern) : Prop where
  /-- The first token is a literal that begins with a slash. -/
  rooted : Token.BeginsWithSlash p.tokens
  /-- No literal is empty, and no two literals follow each other. -/
  joined : Token.IsJoined p.tokens
  /-- No two parameters have the same name. -/
  nodup : (p.params.map Param.name).Nodup
  /-- The names are those of the segments, in order. -/
  names : p.params.map Param.name = parameterNames segments
  /-- The pattern shows what its segments show if that begins with text and a slash. -/
  display : Token.BeginsWithSlash (Segment.flatten segments) →
    p.display = segments.flatMap Segment.display
  /-- Otherwise it shows one slash more in front. -/
  display_slash : ¬Token.BeginsWithSlash (Segment.flatten segments) →
    p.display = '/' :: segments.flatMap Segment.display

/-- A pattern has the flattened tokens with a slash at the front. -/
theorem tokens_of_compile {segments : List Segment} {p : Pattern} (h : compile segments = .ok p) :
    p.tokens = Token.rooted (Segment.flatten segments) := by
  rw [Segment.flatten_eq_join]
  exact (ofTokens_eq_ok h).1

/-- **Every pattern that is compiled from segments is in normal form**, whatever the segments are:
literals that are empty, that follow each other or that begin without a slash, and patterns that
were compiled before, at any depth. -/
theorem isNormalForm_of_compile {segments : List Segment} {p : Pattern}
    (h : compile segments = .ok p) : p.IsNormalForm segments := by
  have htokens := tokens_of_compile h
  have hjoined : Token.IsJoined (Segment.flatten segments) := by
    rw [Segment.flatten_eq_join]
    exact Token.isJoined_join _
  refine ⟨?_, ?_, (ofTokens_eq_ok h).2, ?_, fun hslash => ?_, fun hslash => ?_⟩
  · rw [htokens]
    exact Token.rooted_eq_cons _
  · rw [htokens]
    exact Token.isJoined_rooted hjoined
  · rw [params, htokens, Segment.flatten_eq_join, params_rooted_join, parameterNames]
  · rw [display, htokens, Token.rooted_of_beginsWithSlash hslash, Segment.display_flatten]
  · rw [display, htokens, Token.rooted_of_not_beginsWithSlash hslash, Token.display_push,
      Segment.display_flatten]
    rfl

/-- A pattern between parameters, with empty literals around it and a literal that goes on behind
its last one. -/
theorem isNormalForm_of_compile_nested :
    ∃ inner p, compile [.literal ['u'], .param ⟨['b'], .string⟩, .literal ['-']] = .ok inner ∧
      compile [.literal [], .param ⟨['a'], .integer⟩, .literal [], .pattern inner, .literal [],
        .literal ['s']] = .ok p ∧
      p.display = "/{a:integer}/u{b}-s".toList ∧
      p.IsNormalForm [.literal [], .param ⟨['a'], .integer⟩, .literal [], .pattern inner,
        .literal [], .literal ['s']] := by
  have hany : (compile [.literal ['u'], .param ⟨['b'], .string⟩, .literal ['-']]).toOption.any
      fun inner => (compile [.literal [], .param ⟨['a'], .integer⟩, .literal [], .pattern inner,
        .literal [], .literal ['s']]).toOption.any
          fun p => p.display = "/{a:integer}/u{b}-s".toList := by decide +kernel
  obtain ⟨inner, hinner, hany⟩ := exists_of_any_toOption hany
  obtain ⟨p, hp, hdisplay⟩ := exists_of_any_toOption hany
  exact ⟨inner, p, hinner, hp, of_decide_eq_true hdisplay, isNormalForm_of_compile hp⟩

end Pattern
end Routing
