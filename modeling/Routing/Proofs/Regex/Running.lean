/-
# Running simple expressions

How the expressions of tokens match.  Characters of a set, as many as possible, are tried from
the longest text to the shortest one, as long as what follows depends on the place alone
(`run_plus`).  Characters one after the other match their text (`run_literalPieces`),
and an expression that begins at the start of the text is found there or nowhere
(`search?_textStart`).

A greedy loop over a set of characters is a search for the longest text of these characters behind
which the rest succeeds.  `most?` and `more?` are this search on its own, by recursion on the text,
and all that is needed of the loop is said of them.
-/

import Routing.Regex.Matching
import Routing.Proofs.Regex.Assembly

namespace Routing
namespace Regex

variable {α : Type}

/-- The result of `f` behind the longest text of characters of the set for which there is one. -/
def most? (set : CharSet) (f : Text → Option α) : Text → Option α
  | [] => f []
  | c :: s => if set c then (most? set f s).or (f (c :: s)) else f (c :: s)

/-- If the search fails, the rest fails behind every text of the characters. -/
theorem most?_eq_none {set : CharSet} {f : Text → Option α} {x y : Text}
    (h : most? set f (x ++ y) = none) (hx : ∀ c ∈ x, set c) : f y = none := by
  induction x with
  | nil =>
    cases y with
    | nil => exact h
    | cons c y =>
      rw [List.nil_append, most?] at h
      split at h
      · exact (Option.or_eq_none_iff.mp h).2
      · exact h
  | cons c x ih =>
    rw [List.cons_append, most?, if_pos (hx c List.mem_cons_self)] at h
    exact ih (Option.or_eq_none_iff.mp h).1 fun d hd => hx d (List.mem_cons_of_mem _ hd)

/-- What is found stands behind the longest text of the characters that leads on. -/
theorem most?_eq_some {set : CharSet} {f : Text → Option α} {s : Text} {a : α}
    (h : most? set f s = some a) :
    ∃ x y, s = x ++ y ∧ (∀ c ∈ x, set c) ∧ f y = some a ∧
      ∀ x' y', s = x' ++ y' → (∀ c ∈ x', set c) → x.length < x'.length → f y' = none := by
  induction s with
  | nil =>
    refine ⟨[], [], rfl, by simp, h, fun x' y' heq _ hlt => ?_⟩
    obtain ⟨rfl, rfl⟩ := List.append_eq_nil_iff.mp heq.symm
    simp at hlt
  | cons c s ih =>
    rw [most?] at h
    split at h
    case isTrue hc =>
      -- The longer texts are tried first, so nothing is found behind them if this one is taken.
      rcases Option.or_eq_some_iff.mp h with h | ⟨hnone, h⟩
      · obtain ⟨x, y, rfl, hx, hy, hlongest⟩ := ih h
        refine ⟨c :: x, y, rfl, by simpa [hc] using hx, hy, fun x' y' heq hx' hlt => ?_⟩
        cases x' with
        | nil => simp at hlt
        | cons d x' =>
          obtain ⟨rfl, htail⟩ := List.cons.inj heq
          exact hlongest x' y' htail (fun e he => hx' e (List.mem_cons_of_mem _ he))
            (by simpa using hlt)
      · refine ⟨[], c :: s, rfl, by simp, h, fun x' y' heq hx' hlt => ?_⟩
        cases x' with
        | nil => simp at hlt
        | cons d x' =>
          obtain ⟨rfl, rfl⟩ := List.cons.inj heq
          exact most?_eq_none hnone fun e he => hx' e (List.mem_cons_of_mem _ he)
    case isFalse hc =>
      refine ⟨[], c :: s, rfl, by simp, h, fun x' y' heq hx' hlt => ?_⟩
      cases x' with
      | nil => simp at hlt
      | cons d x' =>
        obtain ⟨rfl, -⟩ := List.cons.inj heq
        exact absurd (hx' c List.mem_cons_self) hc

/-- Like `most?`, of texts that are not empty. -/
def more? (set : CharSet) (f : Text → Option α) : Text → Option α
  | [] => none
  | c :: s => if set c then most? set f s else none

/-- If the search fails, the rest fails behind every text that is not empty. -/
theorem more?_eq_none {set : CharSet} {f : Text → Option α} {x y : Text}
    (h : more? set f (x ++ y) = none) (hne : x ≠ []) (hx : ∀ c ∈ x, set c) : f y = none := by
  cases x with
  | nil => exact absurd rfl hne
  | cons c x =>
    rw [List.cons_append, more?, if_pos (hx c List.mem_cons_self)] at h
    exact most?_eq_none h fun d hd => hx d (List.mem_cons_of_mem _ hd)

/-- What is found stands behind the longest text that leads on, and that is not empty. -/
theorem more?_eq_some {set : CharSet} {f : Text → Option α} {s : Text} {a : α}
    (h : more? set f s = some a) :
    ∃ x y, s = x ++ y ∧ x ≠ [] ∧ (∀ c ∈ x, set c) ∧ f y = some a ∧
      ∀ x' y', s = x' ++ y' → (∀ c ∈ x', set c) → x.length < x'.length → f y' = none := by
  cases s with
  | nil => simp [more?] at h
  | cons c s =>
    rw [more?] at h
    split at h
    case isFalse => simp at h
    case isTrue hc =>
      obtain ⟨x, y, rfl, hx, hy, hlongest⟩ := most?_eq_some h
      refine ⟨c :: x, y, rfl, by simp, by simpa [hc] using hx, hy, fun x' y' heq hx' hlt => ?_⟩
      cases x' with
      | nil => simp at hlt
      | cons d x' =>
        obtain ⟨rfl, htail⟩ := List.cons.inj heq
        exact hlongest x' y' htail (fun e he => hx' e (List.mem_cons_of_mem _ he))
          (by simpa using hlt)

/-- What is done with the result does not change the search. -/
theorem most?_map {β : Type} (g : α → β) (set : CharSet) (f : Text → Option α) (s : Text) :
    most? set (fun y => (f y).map g) s = (most? set f s).map g := by
  induction s with
  | nil => rfl
  | cons c s ih =>
    rw [most?, most?, ih]
    split
    · rw [Option.map_or]
    · rfl

/-- What is done with the result does not change the search for a text that is not empty. -/
theorem more?_map {β : Type} (g : α → β) (set : CharSet) (f : Text → Option α) (s : Text) :
    more? set (fun y => (f y).map g) s = (more? set f s).map g := by
  cases s with
  | nil => rfl
  | cons c s =>
    rw [more?, more?, most?_map]
    split <;> rfl

/-- A greedy loop over characters tries the longest text first. -/
theorem star_char {set : CharSet} {here : Address} {groups : List (Nat × Text)}
    {k : Cursor → Option α} {f : Text → Option α} (hk : ∀ c, c.groups = groups → k c = f c.rest)
    {fuel : Nat} {c : Cursor} (hgroups : c.groups = groups) (hfuel : c.rest.length < fuel) :
    Matcher.star true false here (Matcher.char set) fuel c k = most? set f c.rest := by
  induction fuel generalizing c with
  | zero => omega
  | succ fuel ih =>
    obtain ⟨previous, rest, groups', trail⟩ := c
    simp only [Matcher.star, Matcher.choose, Matcher.prefer, Matcher.char, Option.orElse_eq_or]
    rw [hk _ hgroups]
    cases rest with
    | nil => rfl
    | cons x s =>
      have hnext := ih (c := Cursor.advance ⟨previous, x :: s, groups', trail⟩ x s) hgroups
        (by simpa [Cursor.advance] using hfuel)
      rw [most?]
      by_cases hx : set x
      · simp only [hx, if_true, Bool.false_eq_true, if_false]
        rw [hnext]
        rfl
      · simp [hx]

/-- One character of the set, and then as many more as possible. -/
theorem run_plus {set : CharSet} {here : Address} {k : Cursor → Option α} {f : Text → Option α}
    {c : Cursor} (hk : ∀ c', c'.groups = c.groups → k c' = f c'.rest) :
    (Expr.plus true (.char set)).run false here c k = more? set f c.rest := by
  obtain ⟨previous, rest, groups, trail⟩ := c
  cases rest with
  | nil => rfl
  | cons x s =>
    have hstar := @star_char _ set here _ k f hk _
      (Cursor.advance ⟨previous, x :: s, groups, trail⟩ x s) rfl (Nat.lt_succ_self _)
    show (if set x then _ else none) = if set x then _ else none
    split
    · exact hstar
    · rfl

/-- The pieces of a literal match its text. -/
theorem run_literalPieces (s y : Text) (es : List Expr) (here : Address) (c : Cursor)
    (hrest : c.rest = s ++ y) :
    ∃ here' c', c'.rest = y ∧ c'.groups = c.groups ∧ ∀ k : Cursor → Option α,
      (Expr.concat (literalPieces s ++ es)).run false here c k =
        (Expr.concat es).run false here' c' k := by
  induction s generalizing here c with
  | nil => exact ⟨here, c, hrest, rfl, fun k => rfl⟩
  | cons x s ih =>
    obtain ⟨previous, rest, groups, trail⟩ := c
    obtain rfl : rest = x :: (s ++ y) := hrest
    obtain ⟨here', c', hrest', hgroups', hrun⟩ :=
      ih (true :: here) (Cursor.advance ⟨previous, x :: (s ++ y), groups, trail⟩ x (s ++ y)) rfl
    refine ⟨here', c', hrest', hgroups', fun k => ?_⟩
    rw [← hrun k]
    show (if CharSet.one x x then _ else none) = _
    rw [if_pos (by simp [CharSet.one])]
    rfl

/-- Characters one after the other match only where their text stands. -/
theorem run_literalPieces_eq_some {s : Text} {es : List Expr} {here : Address} {c : Cursor}
    {k : Cursor → Option α} {a : α}
    (h : (Expr.concat (literalPieces s ++ es)).run false here c k = some a) :
    ∃ y, c.rest = s ++ y := by
  induction s generalizing here c with
  | nil => exact ⟨c.rest, rfl⟩
  | cons x s ih =>
    obtain ⟨previous, rest, groups, trail⟩ := c
    cases rest with
    | nil => simp [literalPieces, Expr.concat, Expr.run, Matcher.char] at h
    | cons d rest =>
      change (if CharSet.one x d then _ else none) = _ at h
      split at h
      case isFalse => simp at h
      case isTrue hd =>
        obtain ⟨y, hy⟩ := ih h
        obtain rfl : d = x := by simpa [CharSet.one] using hd
        exact ⟨y, congrArg (d :: ·) hy⟩

/-- An expression that begins at the start of the text is found there or nowhere. -/
theorem search?_textStart (es : List Expr) (s : Text) :
    (Expr.concat (.look .textStart :: es)).search? none s =
      (Expr.concat es).run false [true] (Cursor.start none s) (some ·.groups) := by
  have hnowhere (x : Char) (s : Text) :
      (Expr.concat (.look .textStart :: es)).search? (some x) s = none := by
    induction s generalizing x with
    | nil => rfl
    | cons y s ih =>
      rw [Expr.search?, ih y]
      rfl
  cases s with
  | nil => rfl
  | cons x s =>
    rw [Expr.search?, hnowhere, Option.orElse_eq_or, Option.or_none]
    rfl

end Regex
end Routing
