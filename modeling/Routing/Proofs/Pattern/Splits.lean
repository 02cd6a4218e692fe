/-
# Splitting a path between tokens

What the expression of tokens means, when every parameter has the default matcher.  A path is
split when its literals stand where the tokens say and each parameter has a text that is not
empty and holds no slash (`Splits`).  A path may be split in several ways, for parameters may
follow each other and literals may occur in their texts; of these the match is the one in which
the first parameter takes the most, then the second one, and so on (`IsGreatestSplit`).

`greatest?` computes that split, and matching finds the same (`captures?_eq`).

Running the expression of tokens is compared with computing the split, by induction on the tokens
(`run_piecesFrom`).  The groups that are captured so far, and the place behind them, are arguments
of both.  A parameter tries the longest text first, as the repetition of its expression does, and
the continuation says whether the rest can be split.
-/

import Routing.Regex.Search.Lemmas
import Routing.Proofs.Regex.Expr
import Routing.Proofs.Regex.Running
import Routing.Proofs.Traversal

namespace Routing
namespace Token

/-- The path is split between tokens: literals match themselves, and each parameter a text that
is not empty and holds no slash. -/
inductive Splits : List Token → Text → List Text → Prop where
  /-- Nothing is split between no tokens. -/
  | nil : Splits [] [] []
  /-- A literal in front. -/
  | literal (s : Text) {tokens : List Token} {path : Text} {texts : List Text} :
    Splits tokens path texts → Splits (.literal s :: tokens) (s ++ path) texts
  /-- A parameter in front. -/
  | param (p : Param) {r : Text} {tokens : List Token} {path : Text} {texts : List Text} :
    r ≠ [] → '/' ∉ r → Splits tokens path texts →
      Splits (.param p :: tokens) (r ++ path) (r :: texts)

/-- The first texts are shorter than the second ones at the first place where their lengths
differ. -/
def Shorter (texts texts' : List Text) : Prop :=
  List.Lex (· < ·) (texts.map List.length) (texts'.map List.length)

/-- A split whose texts are the longest ones, from left to right. -/
structure IsGreatestSplit (tokens : List Token) (path : Text) (texts : List Text) : Prop where
  /-- The path is split. -/
  splits : Splits tokens path texts
  /-- Every other split has shorter texts. -/
  greatest : ∀ texts', Splits tokens path texts' → texts' = texts ∨ Shorter texts' texts

/-- A split has a text for each parameter. -/
theorem Splits.length_eq {tokens : List Token} {path : Text} {texts : List Text}
    (h : Splits tokens path texts) : texts.length = (params tokens).length := by
  induction h with
  | nil => rfl
  | literal s _ ih => exact ih
  | param p _ _ _ ih => exact congrArg (· + 1) ih

/-- The texts of the greatest split. -/
def greatest? : List Token → Text → Option (List Text)
  | [], path => if path.isEmpty then some [] else none
  | literal s :: tokens, path => (Text.stripStart? s path).bind (greatest? tokens)
  | param _ :: tokens, path =>
    Regex.more? Regex.notSlash
      (fun rest => (greatest? tokens rest).map (path.take (path.length - rest.length) :: ·)) path

/-- The characters that the default matcher takes are those without a slash. -/
theorem notSlash_iff {r : Text} : (∀ c ∈ r, Regex.notSlash c) ↔ '/' ∉ r := by
  simp only [Regex.notSlash, bne_iff_ne, ne_eq]
  exact ⟨fun h hmem => h _ hmem rfl, fun h c hc heq => h (heq ▸ hc)⟩

/-- What a literal leaves of a path is what follows it. -/
theorem stripStart?_eq_some {s t path : Text} (h : Text.stripStart? s path = some t) :
    path = s ++ t := by
  induction s generalizing path with
  | nil => exact Option.some.inj ((by cases path <;> exact h : some path = some t))
  | cons c s ih =>
    cases path with
    | nil => simp [Text.stripStart?] at h
    | cons d path =>
      rw [Text.stripStart?] at h
      split at h
      case isTrue heq => rw [heq, ih h, List.cons_append]
      case isFalse => simp at h

/-- A path that can be split has a greatest split. -/
theorem greatest?_eq_none {tokens : List Token} {path : Text} {texts : List Text}
    (h : Splits tokens path texts) : greatest? tokens path ≠ none := by
  induction h with
  | nil => simp [greatest?]
  | literal s _ ih => rwa [greatest?, Text.stripStart?_append]
  | param p hne hslash _ ih =>
    intro hnone
    have := Regex.more?_eq_none hnone hne (notSlash_iff.mpr hslash)
    exact ih (Option.map_eq_none_iff.mp this)

/-- The computed split is the greatest one. -/
theorem isGreatestSplit_of_greatest? {tokens : List Token} {path : Text} {texts : List Text}
    (h : greatest? tokens path = some texts) : IsGreatestSplit tokens path texts := by
  induction tokens generalizing path texts with
  | nil =>
    rw [greatest?] at h
    split at h
    case isFalse => simp at h
    case isTrue hpath =>
      obtain rfl := List.isEmpty_iff.mp hpath
      obtain rfl : [] = texts := by simpa using h
      exact ⟨.nil, fun texts' h' => by cases h'; exact .inl rfl⟩
  | cons token tokens ih =>
    cases token with
    | literal s =>
      obtain ⟨rest, hstrip, hrest⟩ := Option.bind_eq_some_iff.mp h
      obtain rfl := stripStart?_eq_some hstrip
      refine ⟨.literal s (ih hrest).splits, fun texts' h' => ?_⟩
      generalize hpath : s ++ rest = path at h'
      cases h' with
      | literal s h' =>
        obtain rfl := List.append_cancel_left hpath
        exact (ih hrest).greatest texts' h'
    | param p =>
      obtain ⟨r, rest, rfl, hne, hr, htexts, hlongest⟩ := Regex.more?_eq_some h
      obtain ⟨texts, hrest, rfl⟩ := Option.map_eq_some_iff.mp htexts
      have htake : (r ++ rest).take ((r ++ rest).length - rest.length) = r := by simp
      rw [htake]
      refine ⟨.param p hne (notSlash_iff.mp hr) (ih hrest).splits, fun texts' h' => ?_⟩
      generalize hpath : r ++ rest = path at h'
      cases h' with
      | @param _ r' _ rest' texts' hne' hslash' h' =>
        -- A longer text for the first parameter leaves no way to split the rest.
        rcases Nat.lt_trichotomy r'.length r.length with hlt | heq | hgt
        · exact .inr (.rel hlt)
        · obtain ⟨rfl, rfl⟩ := List.append_inj hpath heq.symm
          rcases (ih hrest).greatest texts' h' with rfl | hshorter
          · exact .inl rfl
          · exact .inr (.cons hshorter)
        · have := hlongest r' rest' hpath (notSlash_iff.mpr hslash') hgt
          exact absurd (Option.map_eq_none_iff.mp this) (greatest?_eq_none h')

/-- Of two lists of texts, not each is shorter than the other. -/
theorem Shorter.asymm {texts texts' : List Text} (h : Shorter texts texts') :
    ¬Shorter texts' texts :=
  List.lt_asymm (α := Nat) h

/-- There is a greatest split of a path that can be split, and only one. -/
theorem greatest?_eq_some_iff {tokens : List Token} {path : Text} {texts : List Text} :
    greatest? tokens path = some texts ↔ IsGreatestSplit tokens path texts := by
  refine ⟨isGreatestSplit_of_greatest?, fun h => ?_⟩
  cases hfound : greatest? tokens path with
  | none => exact absurd hfound (greatest?_eq_none h.splits)
  | some found =>
    have hgreatest := isGreatestSplit_of_greatest? hfound
    rcases h.greatest found hgreatest.splits with rfl | hshorter
    · rfl
    · rcases hgreatest.greatest texts h.splits with rfl | hshorter'
      · rfl
      · exact absurd hshorter' hshorter.asymm

/-- The groups of texts for the parameters behind `n` other ones. -/
def captured (n : Nat) : List Text → List (Nat × Text) → List (Nat × Text)
  | [], groups => groups
  | r :: texts, groups => captured (n + 1) texts ((n + 1, r) :: groups)

/-- The pieces of tokens match the rest of a path as it is split. -/
theorem run_piecesFrom (tokens : List Token) (n : Nat) (here : Regex.Address) (c : Regex.Cursor) :
    (Regex.Expr.concat (piecesFrom n tokens ++ [.look .textEnd])).run false here c (some ·.groups) =
      (greatest? tokens c.rest).map (captured n · c.groups) := by
  induction tokens generalizing n here c with
  | nil =>
    rw [greatest?]
    show (if c.rest.isEmpty then some c.groups else none) = _
    split <;> rfl
  | cons token tokens ih =>
    cases token with
    -- A literal leads on if the path begins with it, and then in one way.
    | literal s =>
      rw [piecesFrom, List.append_assoc, greatest?]
      cases hstrip : Text.stripStart? s c.rest with
      | some rest =>
        obtain ⟨here', c', hrest, hgroups, hrun⟩ := Regex.run_literalPieces s rest
          (piecesFrom n tokens ++ [.look .textEnd]) here c (stripStart?_eq_some hstrip)
        rw [hrun, ih, hrest, hgroups]
        rfl
      -- What leads on behind the pieces of the literal would have begun with it.
      | none =>
        cases hrun : (Regex.Expr.concat (Regex.literalPieces s ++
            (piecesFrom n tokens ++ [.look .textEnd]))).run false here c (some ·.groups) with
        | none => rfl
        | some groups =>
          obtain ⟨rest, hrest⟩ := Regex.run_literalPieces_eq_some hrun
          rw [hrest, Text.stripStart?_append] at hstrip
          simp at hstrip
    | param p =>
      -- A parameter tries every text without a slash, the longest one first, as the greatest split
      -- does.
      let path := c.rest
      let text (rest : Text) := path.take (path.length - rest.length)
      have hk (c' : Regex.Cursor) (hgroups : c'.groups = c.groups) :
          (Regex.Expr.concat (piecesFrom (n + 1) tokens ++ [.look .textEnd])).run false
              (true :: here) (c'.capture (n + 1) (c.textTo c')) (some ·.groups) =
            ((greatest? tokens c'.rest).map (text c'.rest :: ·)).map (captured n · c.groups) := by
        rw [ih, Option.map_map]
        simp only [Regex.Cursor.capture, hgroups]
        rfl
      exact (Regex.run_plus (f := fun rest =>
        ((greatest? tokens rest).map (text rest :: ·)).map (captured n · c.groups)) hk).trans
        (Regex.more?_map _ _ _ _)

/-- The groups of earlier parameters stay as they are. -/
theorem lookup_captured_of_lt {n i : Nat} (h : i < n) (texts : List Text)
    (groups : List (Nat × Text)) :
    (captured n texts groups).lookup (i + 1) = groups.lookup (i + 1) := by
  induction texts generalizing n groups with
  | nil => rfl
  | cons r texts ih =>
    rw [captured, ih (Nat.lt_succ_of_lt h), List.lookup_cons, beq_false_of_ne (by omega)]

/-- The group of each parameter has its text. -/
theorem lookup_captured {n i : Nat} {texts : List Text} (h : i < texts.length)
    (groups : List (Nat × Text)) :
    (captured n texts groups).lookup (n + i + 1) = texts[i]? := by
  induction texts generalizing n i groups with
  | nil => simp at h
  | cons r texts ih =>
    rw [captured]
    cases i with
    | zero => rw [Nat.add_zero, lookup_captured_of_lt (Nat.lt_succ_self n)]; simp
    | succ i =>
      have hlookup := ih (n := n + 1) (by simpa using h) ((n + 1, r) :: groups)
      rw [show n + (i + 1) + 1 = n + 1 + i + 1 by omega, hlookup, List.getElem?_cons_succ]

/-- The groups are numbered and named in the order of the parameters. -/
theorem groupNames_piecesFrom (n : Nat) (tokens : List Token) :
    (piecesFrom n tokens).flatMap Regex.Expr.groupNames =
      (List.range' n (params tokens).length).map fun i => (i + 1, groupName i) := by
  induction tokens generalizing n with
  | nil => rfl
  | cons token tokens ih =>
    cases token with
    | literal s =>
      rw [piecesFrom, List.flatMap_append, ih, List.flatMap_eq_nil_iff.mpr]
      · rfl
      · simp [Regex.literalPieces, Regex.Expr.groupNames]
    | param p =>
      rw [piecesFrom, List.flatMap_cons, ih]
      simp [params, param?, List.range'_succ, Regex.groupPiece, Regex.Expr.groupNames,
        Regex.Expr.concat]

/-- The group of the `i`-th parameter has the number `i + 1`. -/
theorem groupIndex?_expr {tokens : List Token} {i : Nat} (h : i < (params tokens).length) :
    (expr tokens).groupIndex? (groupName i) = some (i + 1) := by
  have hnames : (expr tokens).groupNames =
      (List.range (params tokens).length).map fun i => (i + 1, groupName i) := by
    rw [expr, Regex.Expr.groupNames_concat, List.range_eq_range', ← groupNames_piecesFrom]
    simp [Regex.Expr.groupNames]
  have hfind : (List.range (params tokens).length).find? (groupName · == groupName i) = some i := by
    rw [List.find?_range_eq_some]
    refine ⟨beq_self_eq_true _, List.mem_range.mpr h, fun j hj => ?_⟩
    have hne : groupName j ≠ groupName i := fun heq => by
      have := Text.decimal_injective (List.cons.inj heq).2
      omega
    simp [hne]
  rw [Regex.Expr.groupIndex?, hnames, List.find?_map]
  exact congrArg _ (congrArg _ hfind)

/-- **Tokens with default matchers compile to their expression.** -/
theorem compile_eq_ok {tokens : List Token} (h : HasDefaultMatchers tokens) :
    ∃ r, compile tokens = .ok (r, (List.range (params tokens).length).map (· + 1)) ∧
      r.expr = expr tokens := by
  have hmatcher := find?_isNone_eq_none fun p hp => by
    rw [h p hp]
    exact Regex.isSome_compile?_defaultMatcher
  obtain ⟨r, hr, hexpr⟩ := Regex.compile?_eq_some (read?_source h)
  have hgroups : ((List.range (params tokens).length).mapM fun i =>
      r.expr.groupIndex? (groupName i)) = some ((List.range (params tokens).length).map (· + 1)) :=
    mapM_eq_some fun i hi => hexpr ▸ groupIndex?_expr (List.mem_range.mp hi)
  refine ⟨r, ?_, hexpr⟩
  rw [compile, hmatcher, hr]
  simp only [hgroups]

/-- **The match is the greatest split.**  Its groups are the texts of the split, by their numbers,
and there is no match just if there is no split. -/
theorem captures?_eq {r : Regex} {tokens : List Token} (h : r.expr = expr tokens) (path : Text) :
    r.captures? path = (greatest? tokens path).map (captured 0 · []) := by
  rw [Regex.captures?, Regex.Expr.find?_eq_search?, h, expr, List.cons_append,
    Regex.search?_textStart, run_piecesFrom]
  rfl

end Token
end Routing
