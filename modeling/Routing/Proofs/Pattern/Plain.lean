/-
# Plain patterns

A regular pattern is made of a template, with a slash between any two parameters, and it does not
begin with two slashes.  So its literals are complete in themselves, and its tokens have a normal
form, from which the rest of the theory starts (`IsRegular.exists_cons`, `IsRegular.isJoined`,
`IsRegular.isEscaped`).  In a plain pattern the decoders read back what they write besides.

What the reader of templates guarantees is carried over to patterns here, once: the tokens are
those of the template, joined and rooted, and joining and rooting keep what is needed of each
literal.  Later modules use the results and never look at a template again.
-/

import Routing.Proofs.Decoder.RoundTrip
import Routing.Proofs.Pattern.Filling
import Routing.Proofs.Pattern.Matching
import Routing.Proofs.Template.Literals

namespace Routing
namespace Pattern

/-- A pattern of a template whose slashes tell its parameters apart. -/
structure IsRegular (p : Pattern) : Prop where
  /-- It is made of a template. -/
  parsed : ∃ template, parse template = .ok p
  /-- Its first literal does not begin with two slashes. -/
  single : ∀ s rest, p.tokens ≠ .literal ('/' :: '/' :: s) :: rest
  /-- A literal with a slash stands between any two parameters. -/
  separated : Token.Separated p.tokens

/-- A pattern of a template, with decoders that read back what they write. -/
structure IsPlain (p : Pattern) : Prop where
  /-- It is made of a template. -/
  parsed : ∃ template, parse template = .ok p
  /-- Its first literal does not begin with two slashes. -/
  single : ∀ s rest, p.tokens ≠ .literal ('/' :: '/' :: s) :: rest
  /-- A literal with a slash stands between any two parameters. -/
  separated : Token.Separated p.tokens
  /-- Its decoders are plain. -/
  decoders : ∀ param ∈ p.params, param.decoder.IsPlain

variable {p : Pattern}

/-- Segments of single tokens have these tokens. -/
theorem flatMap_ofToken (tokens : List Token) :
    (tokens.map Segment.ofToken).flatMap Segment.tokens = tokens := by
  induction tokens with
  | nil => rfl
  | cons token tokens ih =>
    rw [List.map_cons, List.flatMap_cons, ih]
    cases token <;> rfl

/-- The tokens of a pattern that is made of a template. -/
theorem exists_tokens_of_parse {template : Text} (h : parse template = .ok p) :
    ∃ tokens, Template.parse template = .ok tokens ∧
      p.tokens = Token.rooted (Token.join tokens) ∧ (p.params.map Param.name).Nodup := by
  unfold parse at h
  split at h
  case h_1 => cases h
  case h_2 tokens htokens =>
    cases hcompile : compile (tokens.map Segment.ofToken) with
    | error e =>
      rw [hcompile] at h
      cases h
    | ok q =>
      rw [hcompile] at h
      obtain rfl : q = p := Except.ok.inj h
      obtain ⟨heq, hnames⟩ := ofTokens_eq_ok hcompile
      rw [flatMap_ofToken] at heq
      exact ⟨tokens, htokens, heq, hnames⟩

/-- The tokens of a pattern, by those of its template. -/
theorem tokens_of_parse {template : Text} {tokens : List Token} (h : parse template = .ok p)
    (htokens : (Template.parse template).toOption.map (Token.rooted ∘ Token.join) = some tokens) :
    p.tokens = tokens := by
  obtain ⟨parsed, hparsed, heq, -⟩ := exists_tokens_of_parse h
  rw [hparsed] at htokens
  exact heq.trans (Option.some.inj htokens)

/-- A pattern is plain if its tokens are. -/
theorem isPlain_of_parse {template : Text} (tokens : List Token) (h : parse template = .ok p)
    (htokens : (Template.parse template).toOption.map (Token.rooted ∘ Token.join) = some tokens)
    (hsingle : ∀ s rest, tokens ≠ .literal ('/' :: '/' :: s) :: rest)
    (hseparated : Token.Separated tokens)
    (hdecoders : ∀ param ∈ Token.params tokens, param.decoder.IsPlain) : p.IsPlain := by
  obtain rfl := tokens_of_parse h htokens
  exact ⟨⟨template, h⟩, hsingle, hseparated, hdecoders⟩

/-- The tokens of the pattern of two strings. -/
theorem tokens_of_parse_pair (h : parse "/{a}/{b}".toList = .ok p) : p.tokens =
    [.literal ['/'], .param ⟨['a'], .string⟩, .literal ['/'], .param ⟨['b'], .string⟩] :=
  tokens_of_parse h rfl

/-- The pattern of two strings is plain. -/
theorem isPlain_of_parse_pair (h : parse "/{a}/{b}".toList = .ok p) : p.IsPlain := by
  refine isPlain_of_parse
    [.literal ['/'], .param ⟨['a'], .string⟩, .literal ['/'], .param ⟨['b'], .string⟩] h rfl ?_ ?_ ?_
  · simp
  · simp [Token.Separated, Token.SlashFirst]
  · exact List.forall_mem_cons.mpr ⟨trivial, List.forall_mem_cons.mpr ⟨trivial, by simp⟩⟩

namespace IsRegular

/-- The tokens of a template, joined. -/
theorem exists_tokens (h : p.IsRegular) :
    ∃ template tokens, Template.parse template = .ok tokens ∧
      p.tokens = Token.rooted (Token.join tokens) ∧ (p.params.map Param.name).Nodup := by
  obtain ⟨template, hparse⟩ := h.parsed
  exact ⟨template, exists_tokens_of_parse hparse⟩

/-- The names of a regular pattern differ, as they do in every pattern. -/
theorem nodup_names (h : p.IsRegular) : (p.params.map Param.name).Nodup := by
  obtain ⟨-, -, -, -, hnames⟩ := h.exists_tokens
  exact hnames

/-- No two literals of a regular pattern stand side by side. -/
theorem isJoined (h : p.IsRegular) : Token.IsJoined p.tokens := by
  obtain ⟨-, tokens, -, heq, -⟩ := h.exists_tokens
  rw [heq]
  exact Token.isJoined_rooted (Token.isJoined_join tokens)

/-- A regular pattern begins with a literal that begins with a slash. -/
theorem exists_cons (h : p.IsRegular) :
    ∃ s rest, p.tokens = .literal ('/' :: s) :: rest := by
  obtain ⟨-, tokens, -, heq, -⟩ := h.exists_tokens
  rw [heq]
  exact Token.rooted_eq_cons _

/-- The literals of a regular pattern consist of complete escapes and of characters that stand for
themselves. -/
theorem isEscaped (h : p.IsRegular) :
    ∀ s, Token.literal s ∈ p.tokens → Template.IsEscaped s := by
  obtain ⟨_, tokens, hparse, heq, -⟩ := h.exists_tokens
  rw [heq]
  exact Token.forall_literal_rooted (fun _ _ => Percent.Escaped.append)
    (.char (by decide) (by decide) .nil)
    (Token.forall_literal_join (fun _ _ => Percent.Escaped.append)
      (Template.isEscaped_of_parse hparse))

end IsRegular

namespace IsPlain

/-- A plain pattern is regular. -/
theorem isRegular (h : p.IsPlain) : p.IsRegular := ⟨h.parsed, h.single, h.separated⟩

/-- The names of a plain pattern differ. -/
theorem nodup_names (h : p.IsPlain) : (p.params.map Param.name).Nodup := h.isRegular.nodup_names

/-- The parameters of a plain pattern have the default matcher. -/
theorem hasDefaultMatchers (h : p.IsPlain) : p.HasDefaultMatchers := by
  intro param hparam
  have hdecoder := h.decoders param hparam
  cases hkind : param.decoder <;> rw [hkind] at hdecoder <;> first | rfl | exact hdecoder.elim

/-- No two literals of a plain pattern stand side by side. -/
theorem isJoined (h : p.IsPlain) : Token.IsJoined p.tokens := h.isRegular.isJoined

/-- A plain pattern begins with a literal that begins with a slash. -/
theorem exists_cons (h : p.IsPlain) : ∃ s rest, p.tokens = .literal ('/' :: s) :: rest :=
  h.isRegular.exists_cons

/-- The literals of a plain pattern consist of complete escapes and of characters that stand for
themselves. -/
theorem isEscaped (h : p.IsPlain) : ∀ s, Token.literal s ∈ p.tokens → Template.IsEscaped s :=
  h.isRegular.isEscaped

end IsPlain
end Pattern
end Routing
