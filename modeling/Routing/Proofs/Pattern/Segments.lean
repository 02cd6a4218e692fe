/-
# Matching segment by segment

The slashes of its literals cut tokens into segments (`segments`), as the slashes of a path cut it
into pieces.  No parameter takes a slash, so tokens match a path just if each of their segments
matches the piece at its place (`matches_iff`).  Each segment may match its piece in any way,
whatever the others match.  So tokens that match only paths that other tokens match too do so in
each of their segments (`forall₂_segments_of_matches`).

A single token takes no slash, so a token in front of a segment takes the front of one piece
(`matchPieces_pushFront_iff`), and only a slash of a literal ends a piece
(`matchPieces_nil_cons_iff`).  With both, tokens are put in front one by one, as `segments` does.
-/

import Routing.Proofs.Pattern.Points
import Routing.Proofs.Text.Splitting

namespace Routing
namespace Token

/-- The path is split between the tokens in some way. -/
def Matches (tokens : List Token) (path : Text) : Prop := ∃ texts, Splits tokens path texts

/-- The texts that a token matches: a literal itself, a parameter all that has no slash. -/
def Takes : Token → Text → Prop
  | literal s, r => r = s
  | param _, r => IsText r

section Matches

variable {token : Token} {tokens : List Token} {path : Text}

/-- The paths that tokens match are their fillings. -/
theorem matches_iff_fill : Matches tokens path ↔ ∃ texts,
    texts.length = (params tokens).length ∧ (∀ r ∈ texts, IsText r) ∧ path = fill tokens texts := by
  constructor
  · rintro ⟨texts, h⟩
    exact ⟨texts, h.length_eq, h.isText, h.eq_fill⟩
  · rintro ⟨texts, hlength, htexts, rfl⟩
    exact ⟨texts, splits_fill hlength htexts⟩

/-- No tokens match the empty path alone. -/
theorem matches_nil_iff : Matches [] path ↔ path = [] := by
  constructor
  · rintro ⟨texts, h⟩
    exact h.eq_fill
  · rintro rfl
    exact ⟨[], .nil⟩

/-- Tokens match a path if the first one takes its front and the others match the rest. -/
theorem matches_cons_iff : Matches (token :: tokens) path ↔
    ∃ r rest, path = r ++ rest ∧ token.Takes r ∧ Matches tokens rest := by
  cases token with
  | literal s =>
    constructor
    · rintro ⟨texts, h⟩
      cases h with
      | literal s h => exact ⟨s, _, rfl, rfl, _, h⟩
    · rintro ⟨r, rest, rfl, rfl, texts, h⟩
      exact ⟨texts, .literal _ h⟩
  | param p =>
    constructor
    · rintro ⟨texts, h⟩
      cases h with
      | param p hne hslash h => exact ⟨_, _, rfl, ⟨hne, hslash⟩, _, h⟩
    · rintro ⟨r, rest, rfl, hr, texts, h⟩
      exact ⟨r :: texts, .param _ hr.1 hr.2 h⟩

/-- Every token takes some text. -/
theorem exists_takes (token : Token) : ∃ r, token.Takes r := by
  cases token with
  | literal s => exact ⟨s, rfl⟩
  | param p => exact ⟨['a'], by simp, by decide⟩

/-- A literal of one character that is no slash takes none. -/
theorem slash_not_mem_of_takes_char {c : Char} (hc : c ≠ '/') :
    ∀ r, (literal [c]).Takes r → '/' ∉ r := by
  rintro r rfl hmem
  exact hc (List.mem_singleton.mp hmem).symm

/-- A parameter takes no slash. -/
theorem slash_not_mem_of_takes_param (p : Param) : ∀ r, (param p).Takes r → '/' ∉ r := by
  rintro r ⟨-, hslash⟩
  exact hslash

/-- Tokens match some path. -/
theorem exists_matches (tokens : List Token) : ∃ path, Matches tokens path := by
  induction tokens with
  | nil => exact ⟨[], matches_nil_iff.mpr rfl⟩
  | cons token tokens ih =>
    obtain ⟨rest, hrest⟩ := ih
    obtain ⟨r, hr⟩ := exists_takes token
    exact ⟨r ++ rest, matches_cons_iff.mpr ⟨r, rest, rfl, hr, hrest⟩⟩

/-- Tokens without slashes match paths without slashes. -/
theorem slash_not_mem_of_matches (h : ∀ token ∈ tokens, ∀ r, token.Takes r → '/' ∉ r)
    (hpath : Matches tokens path) : '/' ∉ path := by
  induction tokens generalizing path with
  | nil => simp [matches_nil_iff.mp hpath]
  | cons token tokens ih =>
    obtain ⟨htoken, htokens⟩ := List.forall_mem_cons.mp h
    obtain ⟨r, rest, rfl, hr, hrest⟩ := matches_cons_iff.mp hpath
    simp [htoken r hr, ih htokens hrest]

end Matches

/-- The segments with a token at the front of the first one. -/
def pushFront (token : Token) : List (List Token) → List (List Token)
  | [] => []
  | segment :: segments => (token :: segment) :: segments

/-- The segments with a literal in front, which is cut at its slashes. -/
def pushCut : Text → List (List Token) → List (List Token)
  | [], segments => segments
  | c :: s, segments =>
    if c = '/' then [] :: pushCut s segments else pushFront (literal [c]) (pushCut s segments)

/-- The segments of tokens, between the slashes of the literals; at least one. -/
def segments : List Token → List (List Token)
  | [] => [[]]
  | literal s :: tokens => pushCut s (segments tokens)
  | param p :: tokens => pushFront (param p) (segments tokens)

/-- Putting a token in front leaves a segment at least. -/
theorem pushFront_ne_nil (token : Token) {segments : List (List Token)} (h : segments ≠ []) :
    pushFront token segments ≠ [] := by
  cases segments with
  | nil => exact absurd rfl h
  | cons segment segments => exact List.cons_ne_nil _ _

/-- Putting a literal in front leaves a segment at least. -/
theorem pushCut_ne_nil (s : Text) {segments : List (List Token)} (h : segments ≠ []) :
    pushCut s segments ≠ [] := by
  induction s with
  | nil => exact h
  | cons c s ih =>
    rw [pushCut]
    split
    · exact List.cons_ne_nil _ _
    · exact pushFront_ne_nil _ ih

/-- There is always a segment, be it empty. -/
theorem segments_ne_nil (tokens : List Token) : segments tokens ≠ [] := by
  induction tokens with
  | nil => exact List.cons_ne_nil _ _
  | cons token tokens ih =>
    cases token with
    | literal s => exact pushCut_ne_nil s ih
    | param p => exact pushFront_ne_nil _ ih

/-- The segments match the pieces of the path, each the one at its place. -/
def MatchPieces (segments : List (List Token)) (path : Text) : Prop :=
  List.Forall₂ Matches segments (Text.splitBy (· == '/') path)

section Segments

variable {segments : List (List Token)} {path : Text}

/-- A token at the front takes the front of the path. -/
theorem matchPieces_pushFront_iff {token : Token} (htoken : ∀ r, token.Takes r → '/' ∉ r) :
    MatchPieces (pushFront token segments) path ↔
      ∃ r rest, path = r ++ rest ∧ token.Takes r ∧ MatchPieces segments rest := by
  constructor
  · intro h
    cases segments with
    | nil => exact absurd (List.forall₂_nil_left_iff.mp h) (Text.splitBy_ne_nil _ _)
    | cons segment segments =>
      obtain ⟨piece, pieces, hpiece, hpieces, hsplit⟩ := List.forall₂_cons_left_iff.mp h
      obtain ⟨r, first, rfl, hr, hfirst⟩ := matches_cons_iff.mp hpiece
      -- What is left of the first piece, with the other pieces, makes up the rest.
      have hjoin : path = r ++ ['/'].intercalate (first :: pieces) := by
        rw [← Text.intercalate_splitBy '/' path, hsplit]
        cases pieces <;> simp [List.intercalate]
      have hslash : ∀ s ∈ first :: pieces, ∀ c ∈ s, (c == '/') = false := by
        have hall : ∀ s ∈ (r ++ first) :: pieces, ∀ c ∈ s, (c == '/') = false :=
          fun s hs => Text.not_mem_of_mem_splitBy (hsplit ▸ hs)
        obtain ⟨hfront, hpieces⟩ := List.forall_mem_cons.mp hall
        exact List.forall_mem_cons.mpr ⟨fun c hc => hfront c (List.mem_append_right _ hc), hpieces⟩
      refine ⟨r, _, hjoin, hr, ?_⟩
      rw [MatchPieces, Text.splitBy_intercalate (by rfl) (List.cons_ne_nil _ _) hslash]
      exact .cons hfirst hpieces
  · rintro ⟨r, rest, rfl, hr, hrest⟩
    cases segments with
    | nil => exact absurd (List.forall₂_nil_left_iff.mp hrest) (Text.splitBy_ne_nil _ _)
    | cons segment segments =>
      obtain ⟨piece, pieces, hpiece, hpieces, hsplit⟩ := List.forall₂_cons_left_iff.mp hrest
      rw [MatchPieces, splitBy_append (htoken r hr) hsplit]
      exact .cons (matches_cons_iff.mpr ⟨r, piece, rfl, hr, hpiece⟩) hpieces

/-- An empty segment at the front matches what stands before a slash at the front. -/
theorem matchPieces_nil_cons_iff (hne : segments ≠ []) :
    MatchPieces ([] :: segments) path ↔ ∃ rest, path = '/' :: rest ∧ MatchPieces segments rest := by
  constructor
  · intro h
    obtain ⟨piece, pieces, hpiece, hpieces, hsplit⟩ := List.forall₂_cons_left_iff.mp h
    obtain rfl := matches_nil_iff.mp hpiece
    cases path with
    | nil =>
      obtain rfl : [] = pieces := (List.cons.inj hsplit).2
      exact absurd (List.forall₂_nil_right_iff.mp hpieces) hne
    | cons c path =>
      by_cases hc : c = '/'
      · subst hc
        obtain rfl : Text.splitBy (· == '/') path = pieces := (List.cons.inj hsplit).2
        exact ⟨path, rfl, hpieces⟩
      · rw [Text.splitBy, if_neg (by simpa using hc)] at hsplit
        split at hsplit <;> cases hsplit
  · rintro ⟨rest, rfl, hrest⟩
    exact .cons (matches_nil_iff.mpr rfl) hrest

/-- A literal in front takes the front of the path, with its slashes. -/
theorem matchPieces_pushCut_iff (hne : segments ≠ []) (s : Text) :
    MatchPieces (pushCut s segments) path ↔
      ∃ rest, path = s ++ rest ∧ MatchPieces segments rest := by
  induction s generalizing path with
  | nil => simp [pushCut]
  | cons c s ih =>
    rw [pushCut]
    split
    case isTrue hc =>
      subst hc
      rw [matchPieces_nil_cons_iff (pushCut_ne_nil s hne)]
      constructor
      · rintro ⟨rest, rfl, h⟩
        obtain ⟨rest, rfl, hrest⟩ := ih.mp h
        exact ⟨rest, rfl, hrest⟩
      · rintro ⟨rest, rfl, hrest⟩
        exact ⟨s ++ rest, rfl, ih.mpr ⟨rest, rfl, hrest⟩⟩
    case isFalse hc =>
      rw [matchPieces_pushFront_iff (slash_not_mem_of_takes_char hc)]
      constructor
      · rintro ⟨r, rest, rfl, rfl, h⟩
        obtain ⟨rest, rfl, hrest⟩ := ih.mp h
        exact ⟨rest, rfl, hrest⟩
      · rintro ⟨rest, rfl, hrest⟩
        exact ⟨[c], s ++ rest, rfl, rfl, ih.mpr ⟨rest, rfl, hrest⟩⟩

end Segments

/-- **Tokens match a path just if their segments match its pieces.** -/
theorem matches_iff (tokens : List Token) (path : Text) :
    Matches tokens path ↔ MatchPieces (segments tokens) path := by
  induction tokens generalizing path with
  | nil =>
    rw [matches_nil_iff, segments]
    -- The empty path is one empty piece.
    constructor
    · rintro rfl
      exact .cons (matches_nil_iff.mpr rfl) .nil
    · intro h
      obtain ⟨piece, pieces, hpiece, hpieces, hsplit⟩ := List.forall₂_cons_left_iff.mp h
      obtain rfl := matches_nil_iff.mp hpiece
      obtain rfl := List.forall₂_nil_left_iff.mp hpieces
      rw [← Text.intercalate_splitBy '/' path, hsplit]
      rfl
  | cons token tokens ih =>
    rw [matches_cons_iff]
    cases token with
    | literal s =>
      rw [segments, matchPieces_pushCut_iff (segments_ne_nil tokens)]
      constructor
      · rintro ⟨r, rest, rfl, rfl, hrest⟩
        exact ⟨rest, rfl, (ih rest).mp hrest⟩
      · rintro ⟨rest, rfl, hrest⟩
        exact ⟨s, rest, rfl, rfl, (ih rest).mpr hrest⟩
    | param p =>
      rw [segments, matchPieces_pushFront_iff (slash_not_mem_of_takes_param p)]
      constructor
      · rintro ⟨r, rest, rfl, hr, hrest⟩
        exact ⟨r, rest, rfl, hr, (ih rest).mp hrest⟩
      · rintro ⟨r, rest, rfl, hr, hrest⟩
        exact ⟨r, rest, rfl, hr, (ih rest).mpr hrest⟩

section Slashes

/-- No token of the segments takes a slash. -/
def AreSlashless (segments : List (List Token)) : Prop :=
  ∀ segment ∈ segments, ∀ token ∈ segment, ∀ r, token.Takes r → '/' ∉ r

/-- A token without slashes leaves segments without slashes. -/
theorem areSlashless_pushFront {token : Token} (htoken : ∀ r, token.Takes r → '/' ∉ r)
    {segments : List (List Token)} (h : AreSlashless segments) :
    AreSlashless (pushFront token segments) := by
  cases segments with
  | nil => exact h
  | cons segment segments =>
    obtain ⟨hsegment, hsegments⟩ := List.forall_mem_cons.mp h
    exact List.forall_mem_cons.mpr ⟨List.forall_mem_cons.mpr ⟨htoken, hsegment⟩, hsegments⟩

/-- A literal that is cut at its slashes leaves segments without slashes. -/
theorem areSlashless_pushCut (s : Text) {segments : List (List Token)} (h : AreSlashless segments) :
    AreSlashless (pushCut s segments) := by
  induction s with
  | nil => exact h
  | cons c s ih =>
    rw [pushCut]
    split
    case isTrue => exact List.forall_mem_cons.mpr ⟨by simp, ih⟩
    case isFalse hc => exact areSlashless_pushFront (slash_not_mem_of_takes_char hc) ih

/-- The segments of tokens have no slashes. -/
theorem areSlashless_segments (tokens : List Token) : AreSlashless (segments tokens) := by
  induction tokens with
  | nil => simp [AreSlashless, segments]
  | cons token tokens ih =>
    cases token with
    | literal s => exact areSlashless_pushCut s ih
    | param p => exact areSlashless_pushFront (slash_not_mem_of_takes_param p) ih

end Slashes

/-- Where all that is related to one list item by item is related to another one, this is so of
their items, since one item may be varied with the others kept. -/
theorem forall₂_of_forall₂_imp {α β γ : Type} {R : α → γ → Prop} {S : β → γ → Prop} {as : List α}
    {bs : List β} (hne : ∀ a ∈ as, ∃ c, R a c)
    (h : ∀ cs, List.Forall₂ R as cs → List.Forall₂ S bs cs) :
    List.Forall₂ (fun a b => ∀ c, R a c → S b c) as bs := by
  induction as generalizing bs with
  | nil =>
    cases h [] .nil
    exact .nil
  | cons a as ih =>
    obtain ⟨⟨c, hc⟩, hne⟩ := List.forall_mem_cons.mp hne
    obtain ⟨cs, hcs⟩ := exists_forall₂ hne
    obtain ⟨b, bs, -, hrest, rfl⟩ := List.forall₂_cons_right_iff.mp (h (c :: cs) (.cons hc hcs))
    refine .cons (fun c' hc' => ?_) (ih hne fun cs' hcs' => ?_)
    · exact (List.forall₂_cons.mp (h (c' :: cs) (.cons hc' hcs))).1
    · exact (List.forall₂_cons.mp (h (c :: cs') (.cons hc hcs'))).2

/-- **What matches less matches less in each segment.** -/
theorem forall₂_segments_of_matches {tokens tokens' : List Token}
    (h : ∀ path, Matches tokens path → Matches tokens' path) :
    List.Forall₂ (fun segment segment' => ∀ piece, Matches segment piece → Matches segment' piece)
      (segments tokens) (segments tokens') := by
  refine forall₂_of_forall₂_imp (fun segment _ => exists_matches segment) fun pieces hpieces => ?_
  have hne : pieces ≠ [] := by
    rintro rfl
    exact segments_ne_nil tokens (List.forall₂_nil_right_iff.mp hpieces)
  have hslash : ∀ piece ∈ pieces, ∀ c ∈ piece, (c == '/') = false := fun piece hpiece c hc => by
    obtain ⟨segment, hsegment, hmatches⟩ := exists_of_mem_right hpieces hpiece
    have := slash_not_mem_of_matches (areSlashless_segments tokens segment hsegment) hmatches
    exact beq_false_of_ne fun heq => this (heq ▸ hc)
  have hsplit := Text.splitBy_intercalate (p := (· == '/')) (c := '/') (by rfl) hne hslash
  -- The pieces are put together, and the path that they make is matched as a whole.
  have hpath := (matches_iff tokens _).mpr (by rwa [MatchPieces, hsplit])
  have hpath' := (matches_iff tokens' _).mp (h _ hpath)
  rwa [MatchPieces, hsplit] at hpath'

end Token
end Routing
