/-
# Results, item by item

A list of results is related to the list that it was made from item by item.  This is what a
`mapM` comes to that succeeds (`mapM_eq_ok_iff`).

Readers and builders go through a list, may fail at any item, and give the results back in order.
The lemmas here let the statements about them speak of one item at a time, with a relation
`List.Forall₂` between the two lists, and move between that relation and single members.
-/

import Mathlib.Data.List.Forall2

namespace Routing

/-- A result that is not an error is the result.  Tests that run by evaluation speak of `toOption`,
statements of `.ok`. -/
theorem toOption_eq_some_iff {ε α : Type} {x : Except ε α} {a : α} :
    x.toOption = some a ↔ x = .ok a := by
  cases x with
  | error e => exact iff_of_false (by rintro ⟨⟩) (by rintro ⟨⟩)
  | ok b => exact ⟨fun h => congrArg _ (Option.some.inj h), fun h => congrArg _ (Except.ok.inj h)⟩

/-- A result that passes a test is a result. -/
theorem exists_of_any_toOption {ε α : Type} {x : Except ε α} {test : α → Bool}
    (h : x.toOption.any test) : ∃ a, x = .ok a ∧ test a := by
  obtain ⟨a, ha, htest⟩ := (Option.any_eq_true _ _).mp h
  exact ⟨a, toOption_eq_some_iff.mp ha, htest⟩

/-- Items that all have results have the list of these. -/
theorem mapM_eq_some {α β : Type} {f : α → Option β} {g : α → β} {l : List α}
    (h : ∀ a ∈ l, f a = some (g a)) : l.mapM f = some (l.map g) := by
  induction l with
  | nil => rfl
  | cons a l ih =>
    rw [List.mapM_cons, h a List.mem_cons_self, ih fun b hb => h b (List.mem_cons_of_mem _ hb)]
    rfl

/-- What is found at every place of a list is the list. -/
theorem mapM_range_eq_some {α : Type} {f : Nat → Option α} {l : List α}
    (h : ∀ i < l.length, f i = l[i]?) : (List.range l.length).mapM f = some l := by
  induction l generalizing f with
  | nil => rfl
  | cons a l ih =>
    have htail : ((List.range l.length).map (· + 1)).mapM f = some l := by
      rw [List.mapM_map]
      exact ih fun i hi => h (i + 1) (Nat.succ_lt_succ hi)
    rw [List.length_cons, List.range_succ_eq_map, List.mapM_cons, h 0 (Nat.succ_pos _), htail]
    rfl

/-- **A traversal succeeds with the results of its items**, each at the place of its item, and only
so: the first error would be that of the whole. -/
theorem mapM_eq_ok_iff {ε α β : Type} {f : α → Except ε β} {l : List α} {l' : List β} :
    l.mapM f = .ok l' ↔ List.Forall₂ (fun a b => f a = .ok b) l l' := by
  induction l generalizing l' with
  | nil =>
    rw [List.mapM_nil, List.forall₂_nil_left_iff]
    exact ⟨fun h => (Except.ok.inj h).symm, fun h => h ▸ rfl⟩
  | cons a l ih =>
    rw [List.mapM_cons, List.forall₂_cons_left_iff]
    constructor
    · intro h
      -- Either the first item fails, or the rest does, or both have results.
      cases ha : f a with
      | error e => rw [ha] at h; cases h
      | ok b =>
        cases hl : l.mapM f with
        | error e => rw [ha, hl] at h; cases h
        | ok rest =>
          rw [ha, hl] at h
          exact ⟨b, rest, rfl, ih.mp hl, (Except.ok.inj h).symm⟩
    · rintro ⟨b, rest, hb, hrest, rfl⟩
      rw [hb, ih.mpr hrest]
      rfl

/-- Items that are each related to something are related to a list of such things. -/
theorem exists_forall₂ {α β : Type} {R : α → β → Prop} {l : List α} (h : ∀ a ∈ l, ∃ b, R a b) :
    ∃ l', List.Forall₂ R l l' := by
  induction l with
  | nil => exact ⟨[], .nil⟩
  | cons a l ih =>
    obtain ⟨b, hb⟩ := h a List.mem_cons_self
    obtain ⟨l', hl'⟩ := ih fun a ha => h a (List.mem_cons_of_mem _ ha)
    exact ⟨b :: l', .cons hb hl'⟩

/-- An item has a partner at its own place. -/
theorem exists_mem_zip {α β : Type} {R : α → β → Prop} {l : List α} {l' : List β}
    (h : List.Forall₂ R l l') {a : α} (ha : a ∈ l) : ∃ b, R a b ∧ (a, b) ∈ l.zip l' := by
  induction h with
  | nil => simp at ha
  | @cons a' b' l l' hb _ ih =>
    rcases List.mem_cons.mp ha with rfl | ha
    · exact ⟨b', hb, List.mem_cons_self⟩
    · obtain ⟨b, hb, hmem⟩ := ih ha
      exact ⟨b, hb, List.mem_cons_of_mem _ hmem⟩

/-- Everything on the right comes from an item on the left. -/
theorem exists_of_mem_right {α β : Type} {R : α → β → Prop} {l : List α} {l' : List β}
    (h : List.Forall₂ R l l') {b : β} (hb : b ∈ l') : ∃ a ∈ l, R a b := by
  induction h with
  | nil => simp at hb
  | @cons a' b' l l' ha _ ih =>
    rcases List.mem_cons.mp hb with rfl | hb
    · exact ⟨a', List.mem_cons_self, ha⟩
    · obtain ⟨a, hmem, ha⟩ := ih hb
      exact ⟨a, List.mem_cons_of_mem _ hmem, ha⟩

/-- What is related to a list that is divided at an item is divided there. -/
theorem exists_of_forall₂_append_cons {α β : Type} {R : α → β → Prop} {l : List α}
    {before after : List β} {b : β} (h : List.Forall₂ R l (before ++ b :: after)) :
    ∃ front a back, l = front ++ a :: back ∧ List.Forall₂ R front before ∧ R a b ∧
      List.Forall₂ R back after := by
  induction before generalizing l with
  | nil =>
    obtain ⟨a, back, ha, hback, rfl⟩ := List.forall₂_cons_right_iff.mp h
    exact ⟨[], a, back, rfl, .nil, ha, hback⟩
  | cons b' before ih =>
    obtain ⟨a', rest, ha', hrest, rfl⟩ := List.forall₂_cons_right_iff.mp h
    obtain ⟨front, a, back, rfl, hfront, ha, hback⟩ := ih hrest
    exact ⟨a' :: front, a, back, rfl, .cons ha' hfront, ha, hback⟩

/-- An item of lists that are put together is one of one list. -/
theorem exists_of_flatten_eq_append_cons {α : Type} {lists : List (List α)} {l l' : List α} {a : α}
    (h : lists.flatten = l ++ a :: l') :
    ∃ before front back after, lists = before ++ (front ++ a :: back) :: after ∧
      l = before.flatten ++ front := by
  rcases List.flatten_eq_append_iff.mp h with
    ⟨before, rest, rfl, rfl, hrest⟩ | ⟨before, front, a', back, after, rfl, rfl, hrest⟩
  · obtain ⟨empty, back, after, rfl, hempty, -⟩ := List.flatten_eq_cons_iff.mp hrest.symm
    refine ⟨before ++ empty, [], back, after, List.append_assoc .. |>.symm, ?_⟩
    rw [List.flatten_append, List.flatten_eq_nil_iff.mpr hempty, List.append_nil, List.append_nil]
  · obtain rfl := (List.cons.inj hrest).1
    exact ⟨before, front, back, after, rfl, rfl⟩

/-- Items that are related anew, to the same result just if they satisfy `K`, are related anew as a
list, to the same list just if all of them do. -/
theorem exists_forall₂_eq_iff {α β : Type} {R : α → β → Prop} {K : α → Prop} {l : List α}
    {l' : List β} (h : List.Forall₂ (fun a b => ∃ b', R a b' ∧ (b' = b ↔ K a)) l l') :
    ∃ anew, List.Forall₂ R l anew ∧ (anew = l' ↔ ∀ a ∈ l, K a) := by
  induction h with
  | nil => exact ⟨[], .nil, by simp⟩
  | cons ha _ ih =>
    obtain ⟨b', hb', hK⟩ := ha
    obtain ⟨anew, hanew, hall⟩ := ih
    refine ⟨b' :: anew, .cons hb' hanew, ?_⟩
    rw [List.cons.injEq, hK, hall, List.forall_mem_cons]

/-- Items whose results are known, as long as they satisfy `K`, have a list of results just if all
of them do. -/
theorem forall₂_iff_map {α β γ : Type} {R : β → γ → Prop} {K : α → Prop} {g : α → γ} {l : List α}
    {l' : List β} (h : List.Forall₂ (fun a b => ∀ c, R b c ↔ K a ∧ c = g a) l l')
    (results : List γ) :
    List.Forall₂ R l' results ↔ (∀ a ∈ l, K a) ∧ results = l.map g := by
  induction h generalizing results with
  | nil => simp
  | @cons a b l l' hb _ ih =>
    rw [List.forall₂_cons_left_iff, List.forall_mem_cons, List.map_cons]
    constructor
    · rintro ⟨c, rest, hc, hrest, rfl⟩
      obtain ⟨ha, rfl⟩ := (hb c).mp hc
      obtain ⟨hl, rfl⟩ := (ih rest).mp hrest
      exact ⟨⟨ha, hl⟩, rfl⟩
    · rintro ⟨⟨ha, hl⟩, rfl⟩
      exact ⟨g a, l.map g, (hb _).mpr ⟨ha, rfl⟩, (ih _).mpr ⟨hl, rfl⟩, rfl⟩

end Routing
