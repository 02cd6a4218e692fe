/-
# Specific patterns have high ranks

A pattern with default matchers that matches only paths that another one matches too has no lower
rank (`Pattern.Narrower.rank_le`).  The shapes that the rank is counted from are those of the
segments of the pattern (`SegmentShape.ofTokens_eq`), and of two segments that match less and more,
both are empty or none is, and the first has no lower score (`SegmentShape.noWider_of_matches`): an
empty segment matches the empty piece, a single parameter pieces of one character that differ, and
every other segment has the highest score.

So a table that goes by rank tries a route before one that matches less only if their ranks are the
same and they were registered in that order.

The rank adds up the scores of the segments, so it is compared segment by segment.  Shapes are read
off the text of the tokens, where a slash may stand anywhere in a literal; that this comes to the
shapes of the segments is shown one literal at a time (`pushPieces_eq`).  Dropping the empty
segments at both ends respects the comparison because emptiness is part of it (`forall₂_trim`).
-/

import Mathlib.Algebra.Order.BigOperators.Group.List
import Mathlib.Algebra.Order.Group.Nat
import Routing.Pattern.Rank
import Routing.Proofs.Pattern.Matching
import Routing.Proofs.Pattern.Segments
import Routing.Proofs.RouteTable.Winner

namespace Routing

/-- The token has literal text. -/
def Token.hasText : Token → Bool
  | literal s => !s.isEmpty
  | param _ => false

namespace SegmentShape

/-- The shape of a segment. -/
def ofSegment (segment : List Token) : SegmentShape :=
  ⟨(Token.params segment).length, segment.any Token.hasText⟩

/-- A literal gives the shape text, unless it is empty. -/
theorem ofSegment_literal (s : Text) (segment : List Token) :
    ofSegment (.literal s :: segment) =
      ⟨(ofSegment segment).params, !s.isEmpty || (ofSegment segment).hasText⟩ := rfl

/-- A parameter counts one more. -/
theorem ofSegment_param (p : Param) (segment : List Token) :
    ofSegment (.param p :: segment) =
      ⟨(ofSegment segment).params + 1, (ofSegment segment).hasText⟩ := rfl

section Shapes

/-- A character of text belongs to the first segment. -/
theorem pushText_eq (c : Char) (segments : List (List Token)) :
    pushText [c] (segments.map ofSegment) =
      (Token.pushFront (.literal [c]) segments).map ofSegment := by
  cases segments with
  | nil => rfl
  | cons segment segments => simp [pushText, Token.pushFront, ofSegment_literal]

/-- A character more at the front is literal text. -/
theorem pushPieces_cons_cons (c : Char) (piece : Text) (pieces : List Text)
    (shapes : List SegmentShape) :
    pushPieces ((c :: piece) :: pieces) shapes =
      pushText [c] (pushPieces (piece :: pieces) shapes) := by
  cases pieces with
  | nil => cases shapes <;> simp [pushPieces, pushText]
  | cons next pieces => simp [pushPieces, pushText]

/-- A literal is cut into the pieces of its segments. -/
theorem pushPieces_eq (s : Text) (segments : List (List Token)) :
    pushPieces (Text.splitBy (· == '/') s) (segments.map ofSegment) =
      (Token.pushCut s segments).map ofSegment := by
  induction s with
  | nil => cases segments <;> simp [Text.splitBy, pushPieces, pushText, Token.pushCut]
  | cons c s ih =>
    rw [Text.splitBy, Token.pushCut]
    cases hsplit : Text.splitBy (· == '/') s with
    | nil => exact absurd hsplit (Text.splitBy_ne_nil _ _)
    | cons piece pieces =>
      rw [hsplit] at ih
      by_cases hc : c = '/'
      · simp only [hc, beq_self_eq_true, if_true, List.map_cons, ← ih]
        rfl
      · simp only [beq_iff_eq, hc, if_false, pushPieces_cons_cons, ih, pushText_eq]

/-- **The shapes of tokens are those of their segments.** -/
theorem ofTokens_eq (tokens : List Token) :
    ofTokens tokens = (Token.segments tokens).map ofSegment := by
  induction tokens with
  | nil => rfl
  | cons token tokens ih =>
    show push token (ofTokens tokens) = _
    rw [ih]
    cases token with
    | literal s => exact pushPieces_eq s _
    | param p =>
      rw [Token.segments]
      cases Token.segments tokens <;> rfl

end Shapes

section Matches

variable {segment : List Token} {piece : Text}

/-- The least length of a piece: a character for each parameter, and one for literal text. -/
def leastLength (shape : SegmentShape) : Nat := shape.params + shape.hasText.toNat

/-- Only the empty shape matches the empty piece. -/
theorem leastLength_eq_zero_iff {shape : SegmentShape} : shape.leastLength = 0 ↔ shape = empty := by
  obtain ⟨params, _ | _⟩ := shape <;> simp [leastLength, empty]

/-- A piece is at least as long as the shape of its segment says. -/
theorem leastLength_le_of_matches (h : Token.Matches segment piece) :
    (ofSegment segment).leastLength ≤ piece.length := by
  induction segment generalizing piece with
  | nil => exact Nat.zero_le _
  | cons token segment ih =>
    obtain ⟨r, rest, rfl, hr, hrest⟩ := Token.matches_cons_iff.mp h
    have ih := ih hrest
    rw [List.length_append]
    cases token with
    | literal s =>
      obtain rfl : r = s := hr
      rw [ofSegment_literal]
      cases r with
      | nil => simpa [leastLength] using ih
      | cons c r =>
        simp only [leastLength, List.isEmpty_cons, Bool.not_false, Bool.true_or, Bool.toNat_true,
          List.length_cons] at ih ⊢
        omega
    | param p =>
      obtain ⟨hne, -⟩ : Token.IsText r := hr
      have hlength := List.length_pos_iff.mpr hne
      rw [ofSegment_param]
      simp only [leastLength] at ih ⊢
      omega

/-- Without literal text, the texts of the parameters are all there is. -/
theorem fill_eq_flatten {texts : List Text} (htext : (ofSegment segment).hasText = false)
    (hlength : texts.length = (ofSegment segment).params) :
    Token.fill segment texts = texts.flatten := by
  induction segment generalizing texts with
  | nil =>
    obtain rfl := List.eq_nil_of_length_eq_zero hlength
    rfl
  | cons token segment ih =>
    cases token with
    | literal s =>
      rw [ofSegment_literal] at htext hlength
      obtain ⟨hs, htext⟩ : s = [] ∧ (ofSegment segment).hasText = false := by simpa using htext
      rw [Token.fill, hs, List.nil_append, ih htext hlength]
    | param p =>
      rw [ofSegment_param] at htext hlength
      obtain ⟨r, texts, rfl⟩ := List.exists_cons_of_length_eq_add_one hlength
      rw [Token.fill, ih htext (Nat.succ.inj hlength), List.flatten_cons]

/-- The pieces that parameters without literal text match. -/
theorem matches_flatten {texts : List Text} (h : ofSegment segment = ⟨texts.length, false⟩)
    (htexts : ∀ r ∈ texts, Token.IsText r) : Token.Matches segment texts.flatten := by
  have hlength : texts.length = (ofSegment segment).params := congrArg params h.symm
  exact Token.matches_iff_fill.mpr
    ⟨texts, hlength, htexts, (fill_eq_flatten (congrArg hasText h) hlength).symm⟩

/-- The empty piece is matched by empty segments alone. -/
theorem matches_nil_iff : Token.Matches segment [] ↔ ofSegment segment = empty := by
  rw [← leastLength_eq_zero_iff]
  constructor
  · exact fun h => Nat.le_zero.mp (leastLength_le_of_matches h)
  · intro h
    have hnone : Token.Matches segment ([] : List Text).flatten :=
      matches_flatten (leastLength_eq_zero_iff.mp h) (by simp)
    exact hnone

/-- Without parameters there is one piece that matches. -/
theorem eq_of_matches (h : (ofSegment segment).params = 0) {piece' : Text}
    (hpiece : Token.Matches segment piece) (hpiece' : Token.Matches segment piece') :
    piece = piece' := by
  obtain ⟨texts, hlength, -, rfl⟩ := Token.matches_iff_fill.mp hpiece
  obtain ⟨texts', hlength', -, rfl⟩ := Token.matches_iff_fill.mp hpiece'
  rw [List.eq_nil_of_length_eq_zero (hlength.trans h),
    List.eq_nil_of_length_eq_zero (hlength'.trans h)]

/-- A shape with a parameter that matches a piece of one character is a single parameter. -/
theorem eq_param_of_leastLength {shape : SegmentShape} (hparams : shape.params ≠ 0)
    (hlength : shape.leastLength ≤ 1) : shape = ⟨1, false⟩ := by
  obtain ⟨params, hasText⟩ := shape
  cases hasText with
  | true =>
    simp only [leastLength, Bool.toNat_true] at hparams hlength
    omega
  | false =>
    simp only [leastLength, Bool.toNat_false] at hparams hlength
    obtain rfl : params = 1 := by omega
    rfl

/-- A segment that matches two pieces of one character is a single parameter. -/
theorem eq_param_of_matches {c d : Char} (hne : c ≠ d) (hc : Token.Matches segment [c])
    (hd : Token.Matches segment [d]) : ofSegment segment = ⟨1, false⟩ :=
  eq_param_of_leastLength (fun hzero => hne (List.cons.inj (eq_of_matches hzero hc hd)).1)
    (leastLength_le_of_matches hc)

end Matches

/-- Two segments of which both are empty or none is, and the second scores no higher. -/
def NoWider (shape shape' : SegmentShape) : Prop :=
  (shape = empty ↔ shape' = empty) ∧ shape'.score ≤ shape.score

/-- No shape scores higher than seven. -/
theorem score_le (shape : SegmentShape) : shape.score ≤ 7 := by
  rw [score]
  split
  · omega
  · split <;> omega

/-- Every shape but the empty one and the single parameter has the highest score. -/
theorem score_eq {shape : SegmentShape} (hempty : shape ≠ empty) (hparam : shape ≠ ⟨1, false⟩) :
    shape.score = 7 := by
  rw [score, if_neg hempty, if_neg hparam]

/-- **A segment that matches less scores no lower.**  Pieces that are at hand tell its shape: the
empty one an empty segment, and two that differ a single parameter. -/
theorem noWider_of_matches {segment segment' : List Token}
    (h : ∀ piece, Token.Matches segment piece → Token.Matches segment' piece) :
    NoWider (ofSegment segment) (ofSegment segment') := by
  have hempty : ofSegment segment = empty ↔ ofSegment segment' = empty := by
    rw [← matches_nil_iff, ← matches_nil_iff]
    refine ⟨h [], fun h' => ?_⟩
    -- Nothing but the empty piece matches the second segment.
    obtain ⟨piece, hpiece⟩ := Token.exists_matches segment
    have hparams := congrArg params (matches_nil_iff.mp h')
    rwa [eq_of_matches hparams (h piece hpiece) h'] at hpiece
  refine ⟨hempty, ?_⟩
  by_cases hshape : ofSegment segment = empty
  · rw [hshape, hempty.mp hshape]
  · by_cases hparam : ofSegment segment = ⟨1, false⟩
    -- Two different pieces of one character tell a single parameter from text.
    · have hletter (c : Char) (hc : '/' ≠ c) : Token.Matches segment' [c] := by
        have hone : Token.Matches segment ([[c]] : List Text).flatten :=
          matches_flatten hparam (by simpa [Token.IsText] using hc)
        exact h [c] hone
      rw [hparam, eq_param_of_matches (by decide) (hletter 'a' (by decide))
        (hletter 'b' (by decide))]
    · rw [score_eq hshape hparam]
      exact score_le _

section Trim

variable {shapes shapes' : List SegmentShape}

/-- Empty shapes at the front are dropped while another one follows. -/
theorem dropEmpty_cons_cons (shape next : SegmentShape) (shapes : List SegmentShape) :
    dropEmpty (shape :: next :: shapes) =
      if shape = empty then dropEmpty (next :: shapes) else shape :: next :: shapes := rfl

/-- Dropping empty shapes at the front keeps the others in correspondence. -/
theorem forall₂_dropEmpty (h : List.Forall₂ NoWider shapes shapes') :
    List.Forall₂ NoWider (dropEmpty shapes) (dropEmpty shapes') := by
  induction h with
  | nil => exact .nil
  | @cons shape shape' shapes shapes' hshape hshapes ih =>
    cases hshapes with
    | nil => exact .cons hshape .nil
    | cons hnext hrest =>
      rw [dropEmpty_cons_cons, dropEmpty_cons_cons]
      by_cases hempty : shape = empty
      · rwa [if_pos hempty, if_pos (hshape.1.mp hempty)]
      · rw [if_neg hempty, if_neg fun hempty' => hempty (hshape.1.mpr hempty')]
        exact .cons hshape (.cons hnext hrest)

/-- So does dropping them at both ends. -/
theorem forall₂_trim (h : List.Forall₂ NoWider shapes shapes') :
    List.Forall₂ NoWider (trim shapes) (trim shapes') :=
  List.rel_reverse (forall₂_dropEmpty (List.rel_reverse (forall₂_dropEmpty h)))

end Trim

end SegmentShape

namespace Pattern

variable {p q : Pattern}

/-- All texts that the first pattern matches, the second one matches. -/
def Narrower (p q : Pattern) : Prop := ∀ s, p.regex.isMatch s → q.regex.isMatch s

/-- A text matches if it is split between the tokens. -/
theorem HasDefaultMatchers.regex_isMatch_iff (h : p.HasDefaultMatchers) (s : Text) :
    p.regex.isMatch s ↔ Token.Matches p.tokens s := by
  rw [Regex.isMatch, Token.captures?_eq h.compiled_eq.1, Option.isSome_map,
    Option.isSome_iff_exists]
  constructor
  · rintro ⟨texts, htexts⟩
    exact ⟨texts, (Token.isGreatestSplit_of_greatest? htexts).splits⟩
  · rintro ⟨texts, htexts⟩
    exact Option.ne_none_iff_exists'.mp (Token.greatest?_eq_none htexts)

/-- **A pattern that matches less has no lower rank.**  What matches less matches less in each
segment, and the rank adds up what the segments score. -/
theorem Narrower.rank_le (h : p.Narrower q) (hp : p.HasDefaultMatchers)
    (hq : q.HasDefaultMatchers) : q.rank ≤ p.rank := by
  have hmatches : ∀ path, Token.Matches p.tokens path → Token.Matches q.tokens path :=
    fun path hpath =>
      (hq.regex_isMatch_iff path).mp (h path ((hp.regex_isMatch_iff path).mpr hpath))
  have hshapes : List.Forall₂ SegmentShape.NoWider (SegmentShape.ofTokens p.tokens)
      (SegmentShape.ofTokens q.tokens) := by
    rw [SegmentShape.ofTokens_eq, SegmentShape.ofTokens_eq, List.forall₂_map_left_iff,
      List.forall₂_map_right_iff]
    exact (Token.forall₂_segments_of_matches hmatches).imp
      fun _ _ h => SegmentShape.noWider_of_matches h
  have hscores := ((SegmentShape.forall₂_trim hshapes).imp fun _ _ h => h.2).flip
  rw [rank, rank, ← List.sum_eq_foldl, ← List.sum_eq_foldl]
  refine List.Forall₂.sum_le_sum ?_
  rw [List.forall₂_map_left_iff, List.forall₂_map_right_iff]
  exact hscores

end Pattern

namespace RouteTable

/-- **A pattern that matches less has no lower rank.**  So by rank, a route is tried before one that
matches less only if they have the same rank and were registered in that order.  Matching less is
meant of the texts, not of the tokens: the patterns need not have tokens in common, nor as many of
them. -/
theorem narrower_ranks_no_lower :
    (∀ p q : Pattern, p.HasDefaultMatchers → q.HasDefaultMatchers → p.Narrower q →
      q.rank ≤ p.rank) ∧
    ∀ (t : RouteTable) (r r' : Route), r.pattern.HasDefaultMatchers →
      r'.pattern.HasDefaultMatchers → r'.pattern.Narrower r.pattern →
      List.Sublist [r, r'] (t.candidates .ranked) →
        r'.pattern.rank = r.pattern.rank ∧ List.Sublist [r, r'] t.routes := by
  refine ⟨fun p q hp hq h => h.rank_le hp hq, fun t r r' hr hr' h hsublist => ?_⟩
  have hle := h.rank_le hr' hr
  exact (outranks_or_sublist_routes hsublist).resolve_left (Nat.not_lt.mpr hle)

/-- Two parameters with a hyphen between them, and two without. -/
theorem narrower_ranks_no_lower_hyphen :
    ∃ p q : Pattern, Pattern.parse "/{a}-{b}".toList = .ok p ∧
      Pattern.parse "/{a}{b}".toList = .ok q ∧ p.HasDefaultMatchers ∧ q.HasDefaultMatchers ∧
      p.Narrower q ∧ q.rank ≤ p.rank ∧ ∃ t : RouteTable,
        List.Sublist [⟨['q'], q⟩, ⟨['p'], p⟩] (t.candidates .ranked) ∧ p.rank = q.rank ∧
        List.Sublist [⟨['q'], q⟩, ⟨['p'], p⟩] t.routes := by
  have hsome : (Pattern.parse "/{a}-{b}".toList).toOption.any (fun _ => true) ∧
      (Pattern.parse "/{a}{b}".toList).toOption.any fun _ => true := by decide +kernel
  obtain ⟨p, hparse, -⟩ := exists_of_any_toOption hsome.1
  obtain ⟨q, hparse', -⟩ := exists_of_any_toOption hsome.2
  have htokens : p.tokens = [.literal ['/'], .param ⟨['a'], .string⟩, .literal ['-'],
      .param ⟨['b'], .string⟩] := Pattern.tokens_of_parse hparse rfl
  have htokens' : q.tokens = [.literal ['/'], .param ⟨['a'], .string⟩, .param ⟨['b'], .string⟩] :=
    Pattern.tokens_of_parse hparse' rfl
  have hparams : ∀ param ∈ [Param.mk ['a'] .string, Param.mk ['b'] .string],
      param.decoder.matcher = defaultMatcher := by simp [Decoder.matcher]
  have hp : p.HasDefaultMatchers := by rwa [Pattern.HasDefaultMatchers, htokens]
  have hq : q.HasDefaultMatchers := by rwa [Pattern.HasDefaultMatchers, htokens']
  have hnarrower : p.Narrower q := by
    intro s hs
    rw [hp.regex_isMatch_iff, htokens] at hs
    rw [hq.regex_isMatch_iff, htokens']
    obtain ⟨_, _, rfl, rfl, hfirst⟩ := Token.matches_cons_iff.mp hs
    obtain ⟨r, _, rfl, hr, hhyphen⟩ := Token.matches_cons_iff.mp hfirst
    obtain ⟨_, _, rfl, rfl, hsecond⟩ := Token.matches_cons_iff.mp hhyphen
    obtain ⟨r', rest, rfl, ⟨-, hslash⟩, hrest⟩ := Token.matches_cons_iff.mp hsecond
    have hr' : Token.IsText ('-' :: r') := ⟨by simp, by simp [hslash]⟩
    exact Token.matches_cons_iff.mpr ⟨['/'], _, rfl, rfl, Token.matches_cons_iff.mpr
      ⟨r, _, rfl, hr, Token.matches_cons_iff.mpr ⟨'-' :: r', rest, rfl, hr', hrest⟩⟩⟩
  have hrank : p.rank = q.rank := by
    rw [Pattern.rank, Pattern.rank, htokens, htokens']
    decide
  let t : RouteTable := ⟨[⟨['q'], q⟩, ⟨['p'], p⟩], by simp⟩
  have hsublist : List.Sublist [⟨['q'], q⟩, ⟨['p'], p⟩] (t.candidates .ranked) :=
    sublist_candidates (Nat.le_of_eq hrank) (List.Sublist.refl _)
  exact ⟨p, q, hparse, hparse', hp, hq, hnarrower, narrower_ranks_no_lower.1 p q hp hq hnarrower, t,
    hsublist, narrower_ranks_no_lower.2 t ⟨['q'], q⟩ ⟨['p'], p⟩ hq hp hnarrower hsublist⟩

end RouteTable
end Routing
