/-
# Patterns inside of patterns

A pattern that is a segment contributes its tokens, which are joined and begin with a slash
already.  They are joined with what follows, and rooted again.  That comes to what the segments
that the pattern is made of contribute (`rooted_join_rooted_join_append`), unless these contribute
nothing and the slash is all that is there.  So a pattern in front compiles as its segments do
(`compile_pattern_cons`).

Joining can be done from any point on: what was joined behind it is joined with the tokens before
(`join_append`).  The only difference that the pattern in front makes is its slash, which stays in
front of whatever it is joined with.
-/

import Routing.Proofs.Pattern.Matching
import Routing.Proofs.Token

namespace Routing
namespace Token

/-- The first token is a literal that begins with a slash. -/
def BeginsWithSlash (tokens : List Token) : Prop := ∃ s rest, tokens = literal ('/' :: s) :: rest

variable {tokens : List Token}

/-- Only the empty literal leaves nothing behind. -/
theorem push_eq_nil_iff {token : Token} :
    push token tokens = [] ↔ token = literal [] ∧ tokens = [] := by
  unfold push
  split
  case h_1 => simp
  case h_2 => simp
  case h_3 hempty _ => simp [show token ≠ literal [] from hempty]

/-- Tokens that join to nothing are empty literals. -/
theorem join_eq_nil_iff : join tokens = [] ↔ ∀ token ∈ tokens, token = literal [] := by
  induction tokens with
  | nil => simp [join]
  | cons token tokens ih =>
    show push token (join tokens) = [] ↔ _
    rw [push_eq_nil_iff, ih, List.forall_mem_cons]

/-- Tokens are joined with what is joined behind them. -/
theorem join_append (tokens rest : List Token) :
    join (tokens ++ rest) = tokens.foldr push (join rest) := List.foldr_append

/-- Putting a token in front comes to joining it with what is in front. -/
theorem foldr_push_push (token : Token) (tokens rest : List Token) :
    (push token tokens).foldr push rest = push token (tokens.foldr push rest) := by
  unfold push
  split
  case h_1 => rfl
  case h_2 s t tokens hs =>
    show push (literal (s ++ t)) _ = push (literal s) (push (literal t) _)
    rw [push_literal_push_literal]
  case h_3 => rfl

/-- What is joined already is joined with what follows. -/
theorem join_join_append (tokens rest : List Token) :
    join (join tokens ++ rest) = join (tokens ++ rest) := by
  rw [join_append, join_append]
  induction tokens with
  | nil => rfl
  | cons token tokens ih =>
    show (push token (join tokens)).foldr push _ = push token _
    rw [foldr_push_push, ih]

/-- A literal in front that begins with a character stays one. -/
theorem exists_push_literal_cons (c : Char) (s : Text) (tokens : List Token) :
    ∃ t rest, push (literal (c :: s)) tokens = literal (c :: t) :: rest := by
  cases tokens with
  | nil => exact ⟨s, [], rfl⟩
  | cons token tokens =>
    cases token with
    | literal t => exact ⟨s ++ t, tokens, rfl⟩
    | param p => exact ⟨s, param p :: tokens, rfl⟩

/-- Tokens with a literal at the front begin as it does. -/
theorem beginsWithSlash_literal_cons_iff {c : Char} {s : Text} :
    BeginsWithSlash (literal (c :: s) :: tokens) ↔ c = '/' := by
  simp [BeginsWithSlash]

/-- Tokens with a parameter at the front do not begin with a slash. -/
theorem not_beginsWithSlash_param {p : Param} : ¬BeginsWithSlash (param p :: tokens) := by
  simp [BeginsWithSlash]

/-- Whether joined tokens begin with a slash is told by what is in front. -/
theorem beginsWithSlash_join_append_iff (h : IsJoined tokens) (hne : tokens ≠ [])
    (rest : List Token) : BeginsWithSlash (join (tokens ++ rest)) ↔ BeginsWithSlash tokens := by
  obtain ⟨token, tokens, rfl⟩ := List.exists_cons_of_ne_nil hne
  rw [join_append, List.foldr_cons]
  cases token with
  | param p => exact iff_of_false not_beginsWithSlash_param not_beginsWithSlash_param
  | literal s =>
    obtain ⟨c, s, rfl⟩ := List.exists_cons_of_ne_nil h.1
    obtain ⟨t, after, heq⟩ := exists_push_literal_cons c s (tokens.foldr push (join rest))
    rw [heq, beginsWithSlash_literal_cons_iff, beginsWithSlash_literal_cons_iff]

/-- Tokens that begin with a slash are rooted already. -/
theorem rooted_of_beginsWithSlash (h : BeginsWithSlash tokens) : rooted tokens = tokens := by
  obtain ⟨s, rest, rfl⟩ := h
  rfl

/-- Other tokens get a slash put in front. -/
theorem rooted_of_not_beginsWithSlash (h : ¬BeginsWithSlash tokens) :
    rooted tokens = push (literal ['/']) tokens := by
  unfold rooted
  split
  case h_1 s tokens => exact absurd ⟨s, tokens, rfl⟩ h
  case h_2 => rfl
  case h_3 hslash hliteral =>
    cases tokens with
    | nil => rfl
    | cons token tokens =>
      cases token with
      | literal s => exact absurd rfl (hliteral s tokens)
      | param p => rfl

/-- **Joining and rooting twice is joining and rooting once**, if there is something in front. -/
theorem rooted_join_rooted_join_append (hne : join tokens ≠ []) (rest : List Token) :
    rooted (join (rooted (join tokens) ++ rest)) = rooted (join (tokens ++ rest)) := by
  rw [← join_join_append tokens]
  have hslash := beginsWithSlash_join_append_iff (isJoined_join tokens) hne rest
  by_cases h : BeginsWithSlash (join tokens)
  · rw [rooted_of_beginsWithSlash h]
  · -- The slash that the inner tokens lack is the one that the outer tokens lack.
    obtain ⟨t, after, heq⟩ :=
      exists_push_literal_cons '/' [] (join (join tokens ++ rest))
    have hpushed : BeginsWithSlash (push (literal ['/']) (join (join tokens ++ rest))) :=
      ⟨t, after, heq⟩
    rw [rooted_of_not_beginsWithSlash h, rooted_of_not_beginsWithSlash (mt hslash.mp h),
      join_append, foldr_push_push, ← join_append, rooted_of_beginsWithSlash hpushed]

end Token

namespace Pattern

/-- **A pattern in front compiles as its segments do**, to the same pattern or with the same
failure. -/
theorem compile_pattern_cons {segments : List Segment} {p : Pattern} (hp : compile segments = .ok p)
    (hsome : ∃ token ∈ segments.flatMap Segment.tokens, token ≠ .literal [])
    (rest : List Segment) : compile (.pattern p :: rest) = compile (segments ++ rest) := by
  obtain ⟨token, hmem, htoken⟩ := hsome
  have hne : Token.join (segments.flatMap Segment.tokens) ≠ [] := fun hnil =>
    htoken (Token.join_eq_nil_iff.mp hnil token hmem)
  have htokens : (Segment.pattern p).tokens =
      Token.rooted (Token.join (segments.flatMap Segment.tokens)) := (ofTokens_eq_ok hp).1
  rw [compile, compile, List.flatMap_cons, List.flatMap_append, htokens,
    Token.rooted_join_rooted_join_append hne]

end Pattern
end Routing
