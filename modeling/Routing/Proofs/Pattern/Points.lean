/-
# Points in the pieces of a filling

Writing the values of parameters anew makes no dot segments (`noDots_fill`).  Two fillings of the
same tokens have pieces that differ by one text at most, and when the second text consists of
points, so does the first one.
-/

import Routing.Proofs.Pattern.Filling
import Routing.Proofs.Template.Literals
import Routing.Proofs.Traversal
import Routing.Proofs.Url.Rendering

namespace Routing
namespace Token

/-- If the second text stands for points, the first one stands for the same. -/
def SamePoints (s t : Text) : Prop :=
  ∀ n, Percent.octets t = List.replicate n 0x2E → Percent.octets s = List.replicate n 0x2E

/-- What stands in front of both texts in the same way does not matter. -/
theorem SamePoints.of_octets {s t s' t' : Text} {bs : List UInt8} (h : SamePoints s t)
    (hs : Percent.octets s' = bs ++ Percent.octets s)
    (ht : Percent.octets t' = bs ++ Percent.octets t) : SamePoints s' t' := by
  intro n hn
  rw [ht] at hn
  obtain ⟨hlength, hbs, hpoints⟩ := List.append_eq_replicate_iff.mp hn
  rw [hs, h _ hpoints, ← hpoints, ← ht, ht, hn]

/-- A text without slash in front goes on with the first piece. -/
theorem splitBy_append {r s piece : Text} {pieces : List Text} (hr : '/' ∉ r)
    (hs : Text.splitBy (· == '/') s = piece :: pieces) :
    Text.splitBy (· == '/') (r ++ s) = (r ++ piece) :: pieces := by
  induction r with
  | nil => exact hs
  | cons c r ih =>
    obtain ⟨hc, hr⟩ := not_or.mp (fun h => hr (List.mem_cons.mpr h))
    rw [List.cons_append, Text.splitBy, if_neg (by simpa using fun heq => hc heq.symm), ih hr]
    rfl

/-- The first piece ends at the first slash. -/
theorem eq_of_splitBy {u w piece : Text} {pieces : List Text} (hu : '/' ∉ u)
    (hw : w.head?.all (· == '/')) (h : Text.splitBy (· == '/') (u ++ w) = piece :: pieces) :
    piece = u := by
  cases w with
  | nil =>
    rw [splitBy_append hu (Text.splitBy.eq_1 _), List.append_nil] at h
    exact (List.cons.inj h).1.symm
  | cons c w =>
    obtain rfl : c = '/' := by simpa using hw
    have hsplit : Text.splitBy (· == '/') ('/' :: w) = [] :: Text.splitBy (· == '/') w := rfl
    rw [splitBy_append hu hsplit, List.append_nil] at h
    exact (List.cons.inj h).1.symm

/-- A literal in front of two texts keeps a relation of their pieces, if whole octets in front of
two pieces keep it. -/
theorem forall₂_splitBy_append {R : Text → Text → Prop} (hnil : R [] [])
    (hfront : ∀ {u s t : Text} {bs : List UInt8},
      (∀ v, Percent.octets (u ++ v) = bs ++ Percent.octets v) → R s t → R (u ++ s) (u ++ t))
    {s : Text} (hs : Template.IsEscaped s) {t t' : Text}
    (h : List.Forall₂ R (Text.splitBy (· == '/') t) (Text.splitBy (· == '/') t')) :
    List.Forall₂ R (Text.splitBy (· == '/') (s ++ t)) (Text.splitBy (· == '/') (s ++ t')) := by
  -- A character or an escape, unless it is a slash, goes to the first piece of both.
  have hunit {u t t' : Text} (hslash : '/' ∉ u) {bs : List UInt8}
      (hu : ∀ v, Percent.octets (u ++ v) = bs ++ Percent.octets v)
      (h : List.Forall₂ R (Text.splitBy (· == '/') t) (Text.splitBy (· == '/') t')) :
      List.Forall₂ R (Text.splitBy (· == '/') (u ++ t)) (Text.splitBy (· == '/') (u ++ t')) := by
    cases hsplit : Text.splitBy (· == '/') t with
    | nil => exact absurd hsplit (Text.splitBy_ne_nil _ _)
    | cons piece pieces =>
      rw [hsplit] at h
      obtain ⟨piece', pieces', hpiece, hpieces, hsplit'⟩ := List.forall₂_cons_left_iff.mp h
      rw [splitBy_append hslash hsplit, splitBy_append hslash hsplit']
      exact .cons (hfront hu hpiece) hpieces
  induction hs with
  | nil => exact h
  | @char c s _ hne _ ih =>
    by_cases hc : c = '/'
    · subst hc
      exact .cons hnil ih
    · exact hunit (u := [c]) (by simpa using fun heq => hc heq.symm)
        (fun v => Percent.octets_cons_of_ne hne v) ih
  | @escape a b s ha hb _ ih =>
    obtain ⟨x, hx⟩ := Option.isSome_iff_exists.mp ha
    obtain ⟨y, hy⟩ := Option.isSome_iff_exists.mp hb
    have hdigit {d : Char} (hd : (Text.hexValue? d).isSome) : '/' ≠ d := by
      rintro rfl
      exact absurd hd (by decide)
    refine @hunit ['%', a, b] _ _ ?_ [UInt8.ofNat (16 * x + y)] (fun v => ?_) ih
    · simp [hdigit ha, hdigit hb]
    · simp only [List.cons_append, List.nil_append]
      rw [Percent.octets, hx, hy]

/-- A literal in front of two texts keeps their pieces alike. -/
theorem samePoints_append {s : Text} (hs : Template.IsEscaped s) {t t' : Text}
    (h : List.Forall₂ SamePoints (Text.splitBy (· == '/') t) (Text.splitBy (· == '/') t')) :
    List.Forall₂ SamePoints (Text.splitBy (· == '/') (s ++ t))
      (Text.splitBy (· == '/') (s ++ t')) :=
  forall₂_splitBy_append (fun _ hn => hn) (fun hu h => h.of_octets (hu _) (hu _)) hs h

/-- Two texts for one parameter; the second one is written anew. -/
structure Renews (r r' : Text) : Prop where
  /-- The first one has no slash. -/
  slash : '/' ∉ r
  /-- The second one has none either. -/
  slash' : '/' ∉ r'
  /-- The second one is percent-encoded. -/
  escaped : Percent.Escaped Percent.component r'
  /-- The second one does not stand for points unless the first one does. -/
  points : SamePoints r r'

/-- Renewed texts in front of the same text keep the pieces alike. -/
theorem Renews.samePoints_append {r r' : Text} (h : Renews r r') (u : Text) :
    SamePoints (r ++ u) (r' ++ u) := by
  intro n hn
  rw [h.escaped.octets_append] at hn
  obtain ⟨hlength, hpoints, hu⟩ := List.append_eq_replicate_iff.mp hn
  have hr := h.points _ hpoints
  rw [Segments.octets_append_of_points hr, hr, ← hpoints, hn]

/-- **The pieces of a renewed filling stand for points only where they did.** -/
theorem samePoints_fill {tokens : List Token} {texts texts' : List Text}
    (hseparated : Separated tokens) (hescaped : ∀ s, literal s ∈ tokens → Template.IsEscaped s)
    (h : List.Forall₂ Renews texts texts') :
    List.Forall₂ SamePoints (Text.splitBy (· == '/') (fill tokens texts))
      (Text.splitBy (· == '/') (fill tokens texts')) := by
  induction tokens generalizing texts texts' with
  | nil => exact .cons (fun n hn => hn) .nil
  | cons token tokens ih =>
    have hrest := fun s hs => hescaped s (List.mem_cons_of_mem _ hs)
    cases token with
    | literal s =>
      exact Token.samePoints_append (hescaped s List.mem_cons_self) (ih hseparated hrest h)
    | param p =>
      have ih {texts texts' : List Text} (h : List.Forall₂ Renews texts texts') :=
        ih hseparated.2 hrest h
      cases h with
      | nil => exact ih .nil
      | @cons r r' texts texts' hr htexts =>
        obtain ⟨u, hu, hfill⟩ := hseparated.1.exists_eq_append
        obtain ⟨w, hw, hhead⟩ := hfill texts
        obtain ⟨w', hw', hhead'⟩ := hfill texts'
        have ih := ih htexts
        cases hsplit : Text.splitBy (· == '/') (fill tokens texts) with
        | nil => exact absurd hsplit (Text.splitBy_ne_nil _ _)
        | cons piece pieces =>
          rw [hsplit] at ih
          obtain ⟨piece', pieces', -, hpieces, hsplit'⟩ := List.forall₂_cons_left_iff.mp ih
          -- Behind the text both fillings go on in the same way up to the next slash.
          obtain rfl := eq_of_splitBy hu hhead (hw ▸ hsplit)
          obtain rfl := eq_of_splitBy hu hhead' (hw' ▸ hsplit')
          rw [fill, fill, splitBy_append hr.slash hsplit, splitBy_append hr.slash' hsplit']
          exact .cons (hr.samePoints_append _) hpieces

/-- **Renewed texts make no dot segments.**  The path that was read had none, and where its pieces
stood for no points, those of the new path do not either. -/
theorem noDots_fill {s : Text} {rest : List Token} {texts texts' : List Text}
    (hseparated : Separated (literal ('/' :: s) :: rest))
    (hescaped : ∀ t, literal t ∈ literal ('/' :: s) :: rest → Template.IsEscaped t)
    (h : List.Forall₂ Renews texts texts')
    (hdots : ∀ t ∈ Address.pieces (fill (literal ('/' :: s) :: rest) texts),
      Segments.isDot t = false) :
    ∀ t ∈ Address.pieces (fill (literal ('/' :: s) :: rest) texts'),
      Segments.isDot t = false := by
  have hpieces := samePoints_fill hseparated hescaped h
  obtain ⟨-, hpieces⟩ := List.forall₂_cons.mp hpieces
  intro t ht
  obtain ⟨t', ht', hpoints⟩ := exists_of_mem_right hpieces ht
  have hdot := hdots t' ht'
  rw [Bool.eq_false_iff] at hdot ⊢
  refine fun hdot' => hdot ?_
  rw [Segments.isDot_iff] at hdot' ⊢
  exact hdot'.imp (hpoints 1) (hpoints 2)

end Token
end Routing
