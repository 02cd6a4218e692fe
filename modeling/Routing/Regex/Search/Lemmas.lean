/-
# Searching loses nothing

The sets of places that a search computes cover the places from which matching
succeeds, part by part: `leadsBy_leadingTo`.  So a part may be skipped at any
other place, and the search finds the first match: `find?_eq_search?`.

A set of places is a number whose bits stand for the places, counted from the end of the text
(`PlaceSet.has`).  It need not be exact: what counts is that no place from which the rest succeeds
is missing (`PlaceSet.Covers`).  A loop covers enough if its step is repeated as often as there are
places, for every round of it that counts goes on in the text.
-/

import Routing.Regex.Search

namespace Routing
namespace Regex

/-- The places from a cursor on are listed, each by the number of characters behind
it. -/
def Listed (places : List Cursor) : Option Char → Text → Prop
  | previous, [] => places[0]? = some (Cursor.start previous [])
  | previous, x :: s =>
    places[s.length + 1]? = some (Cursor.start previous (x :: s)) ∧ Listed places (some x) s

/-- The cursor is at one of the places. -/
def Cursor.IsIn (c : Cursor) (places : List Cursor) : Prop := Listed places c.previous c.rest

/-- A place stands in the list by the number of characters behind it. -/
theorem Listed.getElem?_eq {places : List Cursor} {previous : Option Char} {s : Text}
    (h : Listed places previous s) : places[s.length]? = some (Cursor.start previous s) := by
  cases s with
  | nil => exact h
  | cons x s => exact h.1

/-- Further places behind do not matter. -/
theorem Listed.append {places : List Cursor} (more : List Cursor) {previous : Option Char}
    {s : Text} (h : Listed places previous s) : Listed (places ++ more) previous s := by
  have getElem?_append {n : Nat} {c : Cursor} (h : places[n]? = some c) :
      (places ++ more)[n]? = some c := by
    rw [List.getElem?_append_left (List.getElem?_eq_some_iff.mp h).1, h]
  induction s generalizing previous with
  | nil => exact getElem?_append h
  | cons x s ih => exact ⟨getElem?_append h.1, ih h.2⟩

/-- A text has one place more than characters. -/
theorem length_placesOf (previous : Option Char) (s : Text) :
    (placesOf previous s).length = s.length + 1 := by
  induction s generalizing previous with
  | nil => rfl
  | cons x s ih => simp [placesOf, ih]

/-- The places of a text are listed. -/
theorem listed_placesOf (previous : Option Char) (s : Text) :
    Listed (placesOf previous s) previous s := by
  induction s generalizing previous with
  | nil => rfl
  | cons x s ih =>
    refine ⟨?_, (ih (some x)).append _⟩
    rw [placesOf, List.getElem?_append_right (Nat.le_of_eq (length_placesOf ..)), length_placesOf]
    simp

/-- A condition depends on the place alone. -/
theorem Look.holds_start (l : Look) (c : Cursor) :
    l.holds (Cursor.start c.previous c.rest) = l.holds c := by
  cases l <;> rfl

namespace PlaceSet

/-- The bits of a set are what was asked of the places. -/
theorem testBit_filter {p : Cursor → Bool} {places : List Cursor} {n : Nat} {c : Cursor}
    (h : places[n]? = some c) : (filter p places).testBit n = p c := by
  induction places generalizing n with
  | nil => simp at h
  | cons first places ih =>
    cases n with
    | zero =>
      obtain rfl : first = c := by simpa using h
      rw [filter, Nat.testBit_zero]
      cases p first <;> simp
    | succ n =>
      rw [filter, Nat.testBit_succ, ← ih (by simpa using h)]
      congr 1
      have := Bool.toNat_le (p first)
      omega

/-- A place is in the set that is filtered if the property holds there. -/
theorem has_filter {p : Cursor → Bool} {places : List Cursor} {c : Cursor} (hc : c.IsIn places) :
    (filter p places).has c = p (Cursor.start c.previous c.rest) :=
  testBit_filter (Listed.getElem?_eq hc)

/-- Putting the computation off changes nothing. -/
theorem has_get_filter {p : Cursor → Bool} {places : List Cursor} {c : Cursor}
    (hc : c.IsIn places) :
    has (Thunk.mk fun _ => filter p places).get c = p (Cursor.start c.previous c.rest) :=
  has_filter hc

/-- A step before the others is one step more. -/
theorem repeat_step (step : PlaceSet → PlaceSet) (n : Nat) (t : PlaceSet) :
    Nat.repeat step n (step t) = step (Nat.repeat step n t) := by
  induction n with
  | zero => rfl
  | succ n ih => rw [Nat.repeat, ih, Nat.repeat]

/-- A step that changes nothing can be repeated. -/
theorem repeat_eq_self {step : PlaceSet → PlaceSet} {t : PlaceSet} (h : step t = t) (n : Nat) :
    Nat.repeat step n t = t := by
  induction n with
  | zero => rfl
  | succ n ih => rw [Nat.repeat, ih, h]

/-- Stopping early changes nothing. -/
theorem settle_eq_repeat (step : PlaceSet → PlaceSet) (fuel : Nat) (t : PlaceSet) :
    settle step fuel t = Nat.repeat step fuel t := by
  induction fuel generalizing t with
  | zero => rfl
  | succ fuel ih =>
    rw [settle]
    split
    case isTrue h => exact (repeat_eq_self h _).symm
    case isFalse => rw [ih, repeat_step, Nat.repeat]

/-- Every place at which `k` succeeds is in the set. -/
def Covers {α : Type} (places : List Cursor) (t : PlaceSet) (k : Cursor → Option α) : Prop :=
  ∀ c : Cursor, c.IsIn places → (k c).isSome → t.has c

/-- A place is in the union if it is in either set. -/
theorem has_or {s t : PlaceSet} {c : Cursor} :
    has (s ||| t : Nat) c = (s.has c || t.has c) := Nat.testBit_or ..

/-- A place is in the intersection if it is in both sets. -/
theorem has_and {s t : PlaceSet} {c : Cursor} :
    has (s &&& t : Nat) c = (s.has c && t.has c) := Nat.testBit_and ..

/-- Going on only at the places of a set changes nothing if the set covers the rest. -/
theorem within_eq {α : Type} {places : List Cursor} {t : PlaceSet} {k : Cursor → Option α}
    (h : t.Covers places k) {c : Cursor} (hc : c.IsIn places) : t.within k c = k c := by
  unfold within
  split
  case isTrue => rfl
  case isFalse hn =>
    cases hk : k c with
    | none => rfl
    | some a => exact absurd (h c hc (by simp [hk])) hn

end PlaceSet

/-- A matcher succeeds only at places from which it may lead to where the rest
succeeds. -/
def Matcher.LeadsBy {α : Type} (places : List Cursor) (round : Matcher α)
    (before : PlaceSet → PlaceSet) : Prop :=
  ∀ (t : PlaceSet) (k : Cursor → Option α), t.Covers places k →
    (before t).Covers places fun c => round c k

/-- A choice succeeds at no more places than the rest. -/
theorem PlaceSet.Covers.choose {α : Type} {places : List Cursor} {t : PlaceSet}
    {k : Cursor → Option α} (h : t.Covers places k) (tracked : Bool) (here : Address) :
    t.Covers places fun c => Matcher.choose tracked here c k := by
  intro c hc hk
  simp only [Matcher.choose] at hk
  split at hk
  · split at hk
    · simp at hk
    · exact h { c with trail := here :: c.trail } hc hk
  · exact h c hc hk

/-- One of two ways succeeds. -/
theorem isSome_orElse {α : Type} {a : Option α} {b : Unit → Option α} :
    (a.orElse b).isSome = (a.isSome || (b ()).isSome) := by
  cases a <;> rfl

/-- Which of two ways comes first does not decide whether one succeeds. -/
theorem isSome_prefer {α : Type} {greedy : Bool} {more fewer : Unit → Option α} :
    (Matcher.prefer greedy more fewer).isSome = ((more ()).isSome || (fewer ()).isSome) := by
  unfold Matcher.prefer
  split <;> rw [isSome_orElse]
  exact Bool.or_comm ..

/-- Rounds of a loop start only where some number of them leads on. -/
theorem covers_star {α : Type} {places : List Cursor} {round : Matcher α}
    {before : PlaceSet → PlaceSet} (hround : round.LeadsBy places before) {t : PlaceSet}
    {k : Cursor → Option α} (hk : t.Covers places k) (greedy tracked : Bool) (here : Address)
    {fuel bound : Nat} (hfuel : fuel ≤ bound) :
    PlaceSet.Covers places (Nat.repeat (fun s => t ||| before s) bound t)
      fun c => Matcher.star greedy tracked here round fuel c k := by
  induction fuel generalizing bound with
  | zero => intro c _ h; simp [Matcher.star] at h
  | succ fuel ih =>
    obtain ⟨bound, rfl⟩ : ∃ m, bound = m + 1 := ⟨bound - 1, by omega⟩
    have ih := @ih bound (by omega)
    simp only [Matcher.star]
    refine PlaceSet.Covers.choose (fun c hc h => ?_) tracked here
    rw [isSome_prefer, Bool.or_eq_true] at h
    rw [Nat.repeat, PlaceSet.has_or, Bool.or_eq_true]
    exact h.symm.imp (hk c hc) (hround _ _ ih c hc)

/-- The rounds of a loop with enough fuel. -/
theorem covers_star_around {α : Type} {places : List Cursor} {round : Matcher α}
    {before : PlaceSet → PlaceSet} (hround : round.LeadsBy places before) {t : PlaceSet}
    {k : Cursor → Option α} (hk : t.Covers places k) (greedy tracked : Bool) (here : Address) :
    PlaceSet.Covers places (PlaceSet.around before places.length t)
      fun c => Matcher.star greedy tracked here round (c.rest.length + 1) c k := by
  intro c hc h
  rw [PlaceSet.around, PlaceSet.settle_eq_repeat]
  exact covers_star hround hk greedy tracked here
    (List.getElem?_eq_some_iff.mp (Listed.getElem?_eq hc)).1 c hc h

/-- An expression matches only at places from which its plan may lead to where the
rest succeeds. -/
theorem Expr.leadsBy_leadingTo {α : Type} (places : List Cursor) (e : Expr) (tracked : Bool)
    (here : Address) :
    Matcher.LeadsBy places (e.run tracked here : Matcher α) (e.plan places).leadingTo := by
  induction e generalizing tracked here with
  | empty => exact fun t k hk c hc h => hk c hc h
  | char set =>
    intro t k hk c hc h
    obtain ⟨previous, rest, groups, trail⟩ := c
    cases rest with
    | nil => simp [run, Matcher.char] at h
    | cons x s =>
      simp only [run, Matcher.char] at h
      split at h
      case isFalse => simp at h
      case isTrue hx =>
        have hnext := hk (Cursor.advance ⟨previous, x :: s, groups, trail⟩ x s) hc.2 h
        rw [plan, Plan.leadingTo, PlaceSet.has_and, PlaceSet.has_get_filter hc, Bool.and_eq_true]
        refine ⟨?_, by simpa [Cursor.start] using hx⟩
        simpa [PlaceSet.has, Cursor.advance] using hnext
  | look l =>
    intro t k hk c hc h
    simp only [run] at h
    split at h
    case isFalse => simp at h
    case isTrue hl =>
      rw [plan, Plan.leadingTo, PlaceSet.has_and, PlaceSet.has_get_filter hc, Bool.and_eq_true]
      exact ⟨hk c hc h, by rwa [l.holds_start]⟩
  | seq first second ih₁ ih₂ => exact fun t k hk => ih₁ _ _ _ _ (ih₂ _ _ _ _ hk)
  | alt first second ih₁ ih₂ =>
    intro t k hk
    refine PlaceSet.Covers.choose (fun c hc h => ?_) tracked here
    rw [isSome_orElse, Bool.or_eq_true] at h
    rw [plan, Plan.leadingTo, PlaceSet.has_or, Bool.or_eq_true]
    exact h.imp (ih₁ _ _ _ _ hk c hc) (ih₂ _ _ _ _ hk c hc)
  | star greedy body ih => exact fun t k hk => covers_star_around (ih _ _) hk _ _ _
  | plus greedy body ih => exact fun t k hk => ih _ _ _ _ (covers_star_around (ih _ _) hk _ _ _)
  | group index name body ih =>
    intro t k hk c hc h
    exact ih _ _ t (fun c' => k (c'.capture index (c.textTo c')))
      (fun c' hc' h' => hk (c'.capture index (c.textTo c')) hc' h') c hc h

/-- The first matcher does what the second one does at the places of a text, where
the rest succeeds only at the places of the set. -/
def Matcher.AgreesWith {α : Type} (places : List Cursor) (t : PlaceSet) (m n : Matcher α) : Prop :=
  ∀ k k' : Cursor → Option α, (∀ c : Cursor, c.IsIn places → k c = k' c) → t.Covers places k' →
    ∀ c : Cursor, c.IsIn places → m c k = n c k'

/-- A choice looks at the rest at places of the text alone. -/
theorem choose_congr {α : Type} {places : List Cursor} {k k' : Cursor → Option α}
    (h : ∀ c : Cursor, c.IsIn places → k c = k' c) (tracked : Bool) (here : Address) {c : Cursor}
    (hc : c.IsIn places) :
    Matcher.choose tracked here c k = Matcher.choose tracked here c k' := by
  simp only [Matcher.choose, h c hc, h { c with trail := here :: c.trail } hc]

/-- Skipping the places outside of the set changes nothing. -/
theorem Matcher.AgreesWith.within {α : Type} {places : List Cursor} {t : PlaceSet}
    {m n : Matcher α} (h : m.AgreesWith places t n) :
    Matcher.AgreesWith places t (fun c k => m c (t.within k)) n := by
  refine fun k k' hk hcov => h _ k' (fun c hc => ?_) hcov
  rw [PlaceSet.within, hk c hc]
  exact PlaceSet.within_eq hcov hc

/-- The rounds of a loop may be skipped at places from which no number of them leads on. -/
theorem star_agrees {α : Type} {places : List Cursor} {before : PlaceSet → PlaceSet}
    {t : PlaceSet} {m n : Matcher α} (hn : n.LeadsBy places before)
    (h : m.AgreesWith places (PlaceSet.around before places.length t) n)
    (greedy tracked : Bool) (here : Address) {k k' : Cursor → Option α}
    (hk : ∀ c : Cursor, c.IsIn places → k c = k' c) (hcov : t.Covers places k') {fuel : Nat}
    (hfuel : fuel ≤ places.length) {c : Cursor} (hc : c.IsIn places) :
    Matcher.star greedy tracked here m fuel c k = Matcher.star greedy tracked here n fuel c k' := by
  induction fuel generalizing c with
  | zero => rfl
  | succ fuel ih =>
    simp only [Matcher.star]
    refine choose_congr (fun c hc => ?_) tracked here hc
    have hround := h _ (fun c => Matcher.star greedy tracked here n fuel c k')
      (fun c hc => ih (by omega) hc) (by
        rw [PlaceSet.around, PlaceSet.settle_eq_repeat]
        exact covers_star hn hcov greedy tracked here (by omega)) c hc
    rw [hround, hk c hc]

/-- A simple plan does not ask where the rest succeeds. -/
theorem Plan.seek_of_isSimple {α : Type} {p : Plan} (h : p.isSimple) (tracked : Bool)
    (here : Address) (t t' : PlaceSet) :
    (p.seek tracked here t : Matcher α) = p.seek tracked here t' :=
  match p, h with
  | .empty, _ => rfl
  | .char _ _, _ => rfl
  | .look _ _, _ => rfl

/-- Seeking finds what running finds. -/
theorem Expr.seek_agrees {α : Type} (places : List Cursor) (e : Expr) (tracked : Bool)
    (here : Address) (t : PlaceSet) :
    Matcher.AgreesWith places t ((e.plan places).seek tracked here t)
      (e.run tracked here : Matcher α) := by
  induction e generalizing tracked here t with
  | empty => exact fun k k' hk hcov c hc => hk c hc
  | char set =>
    intro k k' hk hcov c hc
    obtain ⟨previous, rest, groups, trail⟩ := c
    cases rest with
    | nil => rfl
    | cons x s =>
      have hnext := hk (Cursor.advance ⟨previous, x :: s, groups, trail⟩ x s) hc.2
      simp only [plan, Plan.seek, run, Matcher.char, hnext]
  | look l =>
    intro k k' hk hcov c hc
    simp only [plan, Plan.seek, run, hk c hc]
  | seq first second ih₁ ih₂ =>
    intro k k' hk hcov c hc
    have hnext := ih₂ tracked (true :: here) t k k' hk hcov
    have hcov₂ := leadsBy_leadingTo places second tracked (true :: here) t k' hcov
    simp only [plan, Plan.seek, run]
    split
    case isTrue h =>
      rw [Plan.seek_of_isSimple h _ _ _ ((second.plan places).leadingTo t)]
      exact ih₁ _ _ _ _ _ hnext hcov₂ c hc
    case isFalse => exact (ih₁ _ _ _).within _ _ hnext hcov₂ c hc
  | alt first second ih₁ ih₂ =>
    intro k k' hk hcov c hc
    simp only [plan, Plan.seek, run]
    refine choose_congr (fun c hc => ?_) tracked here hc
    rw [ih₁ _ _ _ k k' hk hcov c hc, ih₂ _ _ _ k k' hk hcov c hc]
  | star greedy body ih =>
    intro k k' hk hcov c hc
    exact star_agrees (leadsBy_leadingTo places body _ _) (ih _ _ _).within greedy _ here hk hcov
      (List.getElem?_eq_some_iff.mp (Listed.getElem?_eq hc)).1 hc
  | plus greedy body ih =>
    intro k k' hk hcov c hc
    have hbody : Matcher.LeadsBy places
        (body.run (tracked || body.nullable) (false :: here) : Matcher α)
        (body.plan places).leadingTo := leadsBy_leadingTo places body _ _
    refine (ih _ _ _).within _ _ (fun c hc => ?_) (covers_star_around hbody hcov greedy _ here) c hc
    exact star_agrees hbody (ih _ _ _).within greedy _ here hk hcov
      (List.getElem?_eq_some_iff.mp (Listed.getElem?_eq hc)).1 hc
  | group index name body ih =>
    intro k k' hk hcov c hc
    exact ih _ _ t _ (fun c' => k' (c'.capture index (c.textTo c')))
      (fun c' hc' => hk (c'.capture index (c.textTo c')) hc')
      (fun c' hc' h' => hcov (c'.capture index (c.textTo c')) hc' h') c hc

/-- The search finds the first match. -/
theorem Expr.find?_eq_search? (e : Expr) (previous : Option Char) (s : Text) :
    e.find? previous s = e.search? previous s := by
  have hplaces := listed_placesOf previous s
  unfold find?
  generalize placesOf previous s = places at hplaces
  have hends : PlaceSet.Covers places (PlaceSet.filter (fun _ => true) places)
      fun c => some c.groups := fun c hc _ => PlaceSet.has_filter hc
  have hgroups (c : Cursor) (hc : c.IsIn places) :
      (e.plan places).groupsAt? (PlaceSet.filter (fun _ => true) places) c = e.groupsAt? c :=
    e.seek_agrees places false [] _ _ _ (fun _ _ => rfl) hends c hc
  induction s generalizing previous with
  | nil => exact hgroups _ hplaces
  | cons x s ih =>
    rw [Plan.search?, search?, hgroups (Cursor.start previous (x :: s)) hplaces,
      ih (some x) hplaces.2]

end Regex
end Routing
