/-
# Filling in the parameters

Tokens are filled with a text for each parameter.  A split of a path is a filling with texts that
are not empty and have no slash (`splits_fill`).  The slashes of a filling are those of the
literals, so fillings of the same tokens have the same number of them
(`count_slash_fill`) and end in one together (`Splits.getLast?_fill`).

When a slash stands between any two parameters (`Separated`), each piece of a filling has at most
one text, so a filling tells its texts apart (`Separated.fill_injective`), and a path is split in
one way (`Separated.unique`).

The induction is on the tokens, with a literal that is copied and a parameter that uses up one
text.  Slashes can be counted because the texts have none, and the place of the first slash can be
found because a separating literal stands before the next parameter
(`SlashFirst.exists_eq_append`).
-/

import Routing.Proofs.Pattern.Splits
import Routing.Proofs.Token

namespace Routing
namespace Token

/-- Tokens with texts for their parameters, in order. -/
def fill : List Token → List Text → Text
  | [], _ => []
  | literal s :: tokens, texts => s ++ fill tokens texts
  | param _ :: tokens, [] => fill tokens []
  | param _ :: tokens, r :: texts => r ++ fill tokens texts

/-- A text that a parameter with the default matcher takes. -/
def IsText (r : Text) : Prop := r ≠ [] ∧ '/' ∉ r

/-- A path that is split is the filling with its texts. -/
theorem Splits.eq_fill {tokens : List Token} {path : Text} {texts : List Text}
    (h : Splits tokens path texts) : path = fill tokens texts := by
  induction h with
  | nil => rfl
  | literal s _ ih => rw [fill, ih]
  | param p _ _ _ ih => rw [fill, ih]

/-- The characters of the literals are among those of a path that is split. -/
theorem Splits.mem_of_literal {tokens : List Token} {path : Text} {texts : List Text}
    (h : Splits tokens path texts) {s : Text} (hs : Token.literal s ∈ tokens) :
    ∀ c ∈ s, c ∈ path := by
  induction h with
  | nil => simp at hs
  | literal t _ ih =>
    intro c hc
    rcases List.mem_cons.mp hs with heq | hs
    · exact List.mem_append_left _ (Token.literal.inj heq ▸ hc)
    · exact List.mem_append_right _ (ih hs c hc)
  | param p _ _ _ ih =>
    intro c hc
    rcases List.mem_cons.mp hs with heq | hs
    · cases heq
    · exact List.mem_append_right _ (ih hs c hc)

/-- The texts of a split are texts that parameters take. -/
theorem Splits.isText {tokens : List Token} {path : Text} {texts : List Text}
    (h : Splits tokens path texts) : ∀ r ∈ texts, IsText r := by
  induction h with
  | nil => simp
  | literal s _ ih => exact ih
  | param p hne hslash _ ih => exact List.forall_mem_cons.mpr ⟨⟨hne, hslash⟩, ih⟩

/-- **A filling splits into the texts that it was made of.** -/
theorem splits_fill {tokens : List Token} {texts : List Text}
    (hlength : texts.length = (params tokens).length) (h : ∀ r ∈ texts, IsText r) :
    Splits tokens (fill tokens texts) texts := by
  induction tokens generalizing texts with
  | nil =>
    obtain rfl := List.eq_nil_of_length_eq_zero hlength
    exact .nil
  | cons token tokens ih =>
    cases token with
    | literal s => exact .literal s (ih hlength h)
    | param p =>
      obtain ⟨r, texts, rfl⟩ := List.exists_cons_of_length_eq_add_one hlength
      obtain ⟨hr, hrest⟩ := List.forall_mem_cons.mp h
      exact .param p hr.1 hr.2 (ih (Nat.succ.inj hlength) hrest)

/-- What holds of the characters of literals and texts holds of those of a filling. -/
theorem forall_mem_fill {P : Char → Prop} {tokens : List Token} {texts : List Text}
    (hliteral : ∀ s, literal s ∈ tokens → ∀ c ∈ s, P c) (htexts : ∀ r ∈ texts, ∀ c ∈ r, P c) :
    ∀ c ∈ fill tokens texts, P c := by
  induction tokens generalizing texts with
  | nil => simp [fill]
  | cons token tokens ih =>
    have hrest := fun s hs => hliteral s (List.mem_cons_of_mem _ hs)
    cases token with
    | literal s =>
      intro c hc
      rcases List.mem_append.mp hc with hc | hc
      · exact hliteral s List.mem_cons_self c hc
      · exact ih hrest htexts c hc
    | param p =>
      cases texts with
      | nil => exact ih hrest htexts
      | cons r texts =>
        obtain ⟨hr, htexts⟩ := List.forall_mem_cons.mp htexts
        intro c hc
        rcases List.mem_append.mp hc with hc | hc
        · exact hr c hc
        · exact ih hrest htexts c hc

/-- How many slashes the literals have. -/
def slashes : List Token → Nat
  | [] => 0
  | literal s :: tokens => s.count '/' + slashes tokens
  | param _ :: tokens => slashes tokens

/-- **The slashes of a filling are those of the literals.** -/
theorem count_slash_fill (tokens : List Token) {texts : List Text} (h : ∀ r ∈ texts, '/' ∉ r) :
    (fill tokens texts).count '/' = slashes tokens := by
  induction tokens generalizing texts with
  | nil => rfl
  | cons token tokens ih =>
    cases token with
    | literal s => rw [fill, slashes, List.count_append, ih h]
    | param p =>
      cases texts with
      | nil => exact ih h
      | cons r texts =>
        obtain ⟨hr, htexts⟩ := List.forall_mem_cons.mp h
        rw [fill, slashes, List.count_append, List.count_eq_zero.mpr hr, ih htexts, Nat.zero_add]

/-- Joined tokens that match the empty path are none. -/
theorem Splits.eq_nil {tokens : List Token} {texts : List Text} (h : Splits tokens [] texts)
    (hjoined : IsJoined tokens) : tokens = [] := by
  generalize hpath : ([] : Text) = path at h
  cases h with
  | nil => rfl
  | literal s h => exact absurd (List.append_eq_nil_iff.mp hpath.symm).1 hjoined.1
  | param p hne hslash h => exact absurd (List.append_eq_nil_iff.mp hpath.symm).1 hne

/-- A path that is split ends in a slash only if every filling does. -/
theorem Splits.getLast?_fill {tokens : List Token} {path : Text} {texts : List Text}
    (h : Splits tokens path texts) (hjoined : IsJoined tokens) (hlast : path.getLast? = some '/')
    (texts' : List Text) : (fill tokens texts').getLast? = some '/' := by
  have hleft {s t : Text} (ht : t.getLast? = some '/') : (s ++ t).getLast? = some '/' := by
    rw [List.getLast?_append, ht, Option.some_or]
  induction h generalizing texts' with
  | nil => simp at hlast
  | @literal s tokens path texts hrest ih =>
    rw [fill]
    by_cases hpath : path = []
    · -- Nothing but the literal makes up the path, so nothing follows it.
      subst hpath
      obtain rfl := hrest.eq_nil hjoined.2.2
      simpa [fill] using hlast
    · rw [List.getLast?_append_of_ne_nil _ hpath] at hlast
      exact hleft (ih hjoined.2.2 hlast texts')
  | @param p r tokens path texts hne hslash hrest ih =>
    by_cases hpath : path = []
    · subst hpath
      rw [List.append_nil] at hlast
      exact absurd (List.mem_of_getLast? hlast) hslash
    · rw [List.getLast?_append_of_ne_nil _ hpath] at hlast
      cases texts' with
      | nil => exact ih hjoined hlast []
      | cons r' texts' => exact hleft (ih hjoined hlast texts')

/-- A literal with a slash stands before the next parameter. -/
def SlashFirst : List Token → Prop
  | [] => True
  | literal s :: tokens => '/' ∈ s ∨ SlashFirst tokens
  | param _ :: _ => False

/-- A literal with a slash stands between any two parameters. -/
def Separated : List Token → Prop
  | [] => True
  | literal _ :: tokens => Separated tokens
  | param _ :: tokens => SlashFirst tokens ∧ Separated tokens

/-- Before the first slash, all fillings are the same. -/
theorem SlashFirst.exists_eq_append {tokens : List Token} (h : SlashFirst tokens) :
    ∃ u, '/' ∉ u ∧ ∀ texts, ∃ w, fill tokens texts = u ++ w ∧ w.head?.all (· == '/') := by
  induction tokens with
  | nil => exact ⟨[], List.not_mem_nil, fun texts => ⟨[], rfl, rfl⟩⟩
  | cons token tokens ih =>
    cases token with
    | literal s =>
      by_cases hs : '/' ∈ s
      · obtain ⟨u, t, hst, hu⟩ := List.eq_append_cons_of_mem hs
        refine ⟨u, hu, fun texts => ⟨'/' :: t ++ fill tokens texts, ?_, rfl⟩⟩
        rw [fill, hst, List.append_assoc]
      · obtain ⟨u, hu, hfill⟩ := ih (h.resolve_left hs)
        refine ⟨s ++ u, by simp [hs, hu], fun texts => ?_⟩
        obtain ⟨w, hw, hhead⟩ := hfill texts
        exact ⟨w, by rw [fill, hw, List.append_assoc], hhead⟩
    | param p => exact h.elim

/-- A text without slash, up to the first slash or the end. -/
theorem takeWhile_append_of_head? {u w : Text} (hu : '/' ∉ u) (hw : w.head?.all (· == '/')) :
    (u ++ w).takeWhile (· != '/') = u := by
  have hall : ∀ c ∈ u, (c != '/') = true := fun c hc => by
    rw [bne_iff_ne]
    rintro rfl
    exact hu hc
  rw [List.takeWhile_append_of_pos hall]
  refine List.append_right_eq_self.mpr ?_
  cases w with
  | nil => rfl
  | cons c w =>
    have hc : c = '/' := by simpa using hw
    rw [hc]
    rfl

/-- **Between parameters that a slash separates, a filling tells the texts apart.** -/
theorem Separated.fill_injective {tokens : List Token} (hseparated : Separated tokens)
    {texts texts' : List Text} (hlength : texts.length = (params tokens).length)
    (hlength' : texts'.length = (params tokens).length) (hslash : ∀ r ∈ texts, '/' ∉ r)
    (hslash' : ∀ r ∈ texts', '/' ∉ r) (h : fill tokens texts = fill tokens texts') :
    texts = texts' := by
  induction tokens generalizing texts texts' with
  | nil =>
    obtain rfl := List.eq_nil_of_length_eq_zero hlength
    exact (List.eq_nil_of_length_eq_zero hlength').symm
  | cons token tokens ih =>
    cases token with
    | literal s => exact ih hseparated hlength hlength' hslash hslash' (List.append_cancel_left h)
    | param p =>
      obtain ⟨r, texts, rfl⟩ := List.exists_cons_of_length_eq_add_one hlength
      obtain ⟨r', texts', rfl⟩ := List.exists_cons_of_length_eq_add_one hlength'
      obtain ⟨hr, hrest⟩ := List.forall_mem_cons.mp hslash
      obtain ⟨hr', hrest'⟩ := List.forall_mem_cons.mp hslash'
      rw [fill, fill] at h
      -- Both texts end, together with what the literals have behind them, at the same slash.
      obtain ⟨u, hu, hfill⟩ := hseparated.1.exists_eq_append
      have htake {r : Text} (hr : '/' ∉ r) (texts : List Text) :
          (r ++ fill tokens texts).takeWhile (· != '/') = r ++ u := by
        obtain ⟨w, hw, hhead⟩ := hfill texts
        rw [hw, ← List.append_assoc]
        exact takeWhile_append_of_head? (by simp [hr, hu]) hhead
      have heq := htake hr texts
      rw [h, htake hr' texts'] at heq
      obtain rfl := List.append_cancel_right heq
      rw [ih hseparated.2 (Nat.succ.inj hlength) (Nat.succ.inj hlength') hrest hrest'
        (List.append_cancel_left h)]

/-- **Between parameters that a slash separates, a path is split in one way.**  Without a slash in
between, the first one could leave some of its text to the second one. -/
theorem Separated.unique {tokens : List Token} (hseparated : Separated tokens) {path : Text}
    {texts texts' : List Text} (h : Splits tokens path texts) (h' : Splits tokens path texts') :
    texts = texts' :=
  hseparated.fill_injective h.length_eq h'.length_eq (fun r hr => (h.isText r hr).2)
    (fun r hr => (h'.isText r hr).2) (h.eq_fill.symm.trans h'.eq_fill)

/-- The only split there is, is the greatest one. -/
theorem Separated.isGreatestSplit {tokens : List Token} (hseparated : Separated tokens)
    {path : Text} {texts : List Text} (h : Splits tokens path texts) :
    IsGreatestSplit tokens path texts :=
  ⟨h, fun _ h' => .inl (hseparated.unique h' h)⟩

end Token
end Routing
