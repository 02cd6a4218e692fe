/-
# The template that a pattern shows

A pattern of a template shows a template of its own: without the spaces, and with a slash at the
front.  Every token shows what the grammar derives it from (`Token.IsShown`), so the whole is
derived with the same tokens, and no two of them come to be one literal.  Hence the template that
is shown makes the same pattern again (`parse_display`).
-/

import Routing.Proofs.Pattern.Plain
import Routing.Proofs.Template.Derivation

namespace Routing

/-- The kind of an array shows the kind of its items in angle brackets. -/
theorem Decoder.kind_array (element : Decoder) :
    (Decoder.array element).kind = "array".toList ++ '<' :: element.kind ++ ['>'] := by
  have hword : "array<".toList = "array".toList ++ ['<'] := by decide
  have hkind : (Decoder.array element).kind = "array<".toList ++ element.kind ++ ['>'] := rfl
  rw [hkind, hword, List.append_assoc "array".toList, List.singleton_append]

namespace Template

variable {decoder : Decoder} {s : Text}

/-- The kind of a decoder of a template is written as it is named. -/
theorem KindText.kind (h : KindText decoder s) : KindText decoder decoder.kind := by
  induction h with
  | string => exact .string
  | boolean => exact .boolean
  | integer => exact .integer
  | float => exact .float
  | date => exact .date
  | datetime => exact .datetime
  | @array element _ _ _ _ _ _ _ _ ih =>
    have := KindText.array .nil .nil ih .nil
    rwa [List.append_nil, List.append_nil, List.append_assoc "array".toList, List.cons_append,
      List.nil_append, ← Decoder.kind_array] at this

/-- The kind that is not shown is that of strings only. -/
theorem KindText.eq_string (h : KindText decoder s) (hkind : decoder.kind = "string".toList) :
    decoder = .string := by
  cases h with
  | string => rfl
  | array _ _ _ _ =>
    have hhead := congrArg List.head? hkind
    rw [Decoder.kind_array, List.append_assoc] at hhead
    exact absurd hhead (by simp)
  | boolean => exact absurd hkind (by decide)
  | integer => exact absurd hkind (by decide)
  | float => exact absurd hkind (by decide)
  | date => exact absurd hkind (by decide)
  | datetime => exact absurd hkind (by decide)

/-- What a parameter shows is a text of the parameter, without spaces. -/
theorem ParamText.display {p : Param} (h : ParamText p s) : ParamText p p.display := by
  obtain ⟨hname, kind, hdecoder⟩ : IsName p.name ∧ ∃ kind, KindText p.decoder kind := by
    cases h with
    | bare _ hname _ => exact ⟨hname, _, .string⟩
    | typed _ hname _ _ hkind _ => exact ⟨hname, _, hkind⟩
  obtain ⟨name, decoder⟩ := p
  unfold Param.display
  split
  case isTrue hkind =>
    obtain rfl := hdecoder.eq_string hkind
    simpa using ParamText.bare .nil hname .nil
  case isFalse => simpa using ParamText.typed .nil hname .nil .nil hdecoder.kind .nil

end Template

namespace Token

/-- The token shows a text that the grammar derives it from. -/
def IsShown : Token → Prop
  | literal s => Template.Run s ∧ s ≠ []
  | param p => Template.ParamText p p.display

/-- What is derived from the grammar is shown in the grammar. -/
theorem isShown_of_derives {s : Text} {tokens : List Token} (h : Template.Derives s tokens) :
    ∀ token ∈ tokens, token.IsShown := by
  induction h with
  | nil => simp
  | literal hrun hne _ ih => exact List.forall_mem_cons.mpr ⟨⟨hrun, hne⟩, ih⟩
  | param hparam _ ih => exact List.forall_mem_cons.mpr ⟨hparam.display, ih⟩

/-- A slash at the front is shown in the grammar too. -/
theorem isShown_rooted {tokens : List Token} (h : ∀ token ∈ tokens, token.IsShown) :
    ∀ token ∈ rooted tokens, token.IsShown := by
  unfold rooted
  split
  case h_1 => exact h
  case h_2 s tokens _ =>
    obtain ⟨⟨hrun, -⟩, htokens⟩ := List.forall_mem_cons.mp h
    exact List.forall_mem_cons.mpr ⟨⟨.slash hrun, List.cons_ne_nil _ _⟩, htokens⟩
  case h_3 => exact List.forall_mem_cons.mpr ⟨⟨.slash .nil, List.cons_ne_nil _ _⟩, h⟩

/-- What tokens show is derived with these tokens. -/
theorem derives_display {tokens : List Token} (h : ∀ token ∈ tokens, token.IsShown) :
    Template.Derives (tokens.flatMap display) tokens := by
  induction tokens with
  | nil => exact .nil
  | cons token tokens ih =>
    obtain ⟨htoken, htokens⟩ := List.forall_mem_cons.mp h
    cases token with
    | literal s => exact .literal htoken.1 htoken.2 (ih htokens)
    | param p => exact .param htoken (ih htokens)

/-- A slash is put in front at most once. -/
theorem rooted_rooted (tokens : List Token) : rooted (rooted tokens) = rooted tokens := by
  obtain ⟨s, rest, heq⟩ := rooted_eq_cons tokens
  rw [heq]
  rfl

end Token

namespace Pattern

/-- A pattern of a template is compiled from its own tokens, which show what they are derived
from. -/
theorem shows_of_parse {template : Text} {p : Pattern} (h : parse template = .ok p) :
    compile (p.tokens.map Segment.ofToken) = .ok p ∧ Token.IsJoined p.tokens ∧
      ∀ token ∈ p.tokens, token.IsShown := by
  obtain ⟨tokens, htokens, heq, -⟩ := exists_tokens_of_parse h
  obtain ⟨hderives, hjoined⟩ := Template.parse_eq_ok_iff.mp htokens
  rw [Token.join_eq_self hjoined] at heq
  have hrooted : Token.IsJoined p.tokens := heq ▸ Token.isJoined_rooted hjoined
  refine ⟨?_, hrooted, heq ▸ Token.isShown_rooted (Token.isShown_of_derives hderives)⟩
  rw [parse, htokens] at h
  dsimp only at h
  have hcompile : compile (tokens.map Segment.ofToken) = .ok p := by
    cases hcompile : compile (tokens.map Segment.ofToken) with
    | error e =>
      rw [hcompile] at h
      cases h
    | ok q =>
      rw [hcompile] at h
      exact congrArg Except.ok (Except.ok.inj h)
  rw [compile, flatMap_ofToken] at hcompile ⊢
  rwa [Token.join_eq_self hrooted, heq, Token.rooted_rooted, ← Token.join_eq_self hjoined]

/-- **The template that a pattern shows makes the same pattern**, with the same tokens, expression,
groups and rank.  So what is shown of a route may be kept in place of its template, though the
spaces and the names of kinds that need not be named are not shown again. -/
theorem parse_display {template : Text} {p : Pattern} (h : parse template = .ok p) :
    parse p.display = .ok p := by
  obtain ⟨hcompile, hjoined, hshown⟩ := shows_of_parse h
  have htemplate : Template.parse p.display = .ok p.tokens :=
    Template.parse_eq_ok_iff.mpr ⟨Token.derives_display hshown, hjoined⟩
  rw [parse, htemplate]
  dsimp only
  rw [hcompile]
  rfl

/-- Spaces, a kind that need not be named and nested arrays, without a slash at the front. -/
theorem parse_display_nested :
    ∃ p : Pattern, parse "a{ x : string }{y : array < array< date > >}/".toList = .ok p ∧
      p.display = "/a{x}{y:array<array<date>>}/".toList ∧ parse p.display = .ok p := by
  have hsome : (parse "a{ x : string }{y : array < array< date > >}/".toList).toOption.any
      fun p => p.display = "/a{x}{y:array<array<date>>}/".toList := by decide +kernel
  obtain ⟨p, hparse, hdisplay⟩ := exists_of_any_toOption hsome
  exact ⟨p, hparse, of_decide_eq_true hdisplay, parse_display hparse⟩

end Pattern
end Routing
