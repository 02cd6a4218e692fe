/-
# Resolving segments

Reading a path leaves its pieces as they are when none of them is a dot segment and all of
their characters are kept (`resolve_eq`).  A dot segment cannot be hidden: the segments become
fewer, or the last one becomes empty (`length_resolve_lt_or`).  What is pushed holds no dot
segments (`isDot_eq_false_of_mem_push`), except in the path of a file, where a line break behind
a drive letter keeps one.

Resolving goes through the pieces once and keeps what is done so far in reverse.  Each statement is
therefore proved for any segments done before, by induction on the pieces, with one case for each
of the three things that a piece can be: two points, one point, or a segment.  The last piece is a
case of its own, since a dot segment there leaves an empty segment behind.
-/

import Routing.Proofs.Url.Dots

namespace Routing
namespace Segments

/-- A piece of a path is written with the characters that a path keeps. -/
def IsKept (s : Text) : Prop := ∀ c ∈ s, Percent.path c

/-- No character that a path keeps is a tab or a line break. -/
theorem isBreak_eq_false_of_path {c : Char} (h : Percent.path c) : Url.isBreak c = false := by
  rw [Bool.eq_false_iff]
  intro hbreak
  simp only [Url.isBreak, Bool.or_eq_true, beq_iff_eq] at hbreak
  rcases hbreak with (rfl | rfl) | rfl <;> exact absurd h (by decide)

/-- A text without tabs and line breaks has none to be dropped. -/
theorem dropBreaks_eq_self {s : Text} (h : ∀ c ∈ s, Url.isBreak c = false) :
    Url.dropBreaks s = s :=
  List.filter_eq_self.mpr fun c hc => by rw [h c hc]; rfl

/-- A kept piece is its own encoding. -/
theorem encode_eq_self {s : Text} (h : IsKept s) : encode s = s := by
  rw [encode, dropBreaks_eq_self fun c hc => isBreak_eq_false_of_path (h c hc),
    Percent.encode_eq_self h]

/-- A segment of a path that reading leaves as it is. -/
def IsPlain (s : Text) : Prop := IsKept s ∧ isDot s = false

/-- What a piece does that is not the last one.  The lemmas below split on its three branches. -/
theorem resolve_cons (file : Bool) (done : List Text) (s t : Text) (pieces : List Text) :
    resolve file done (s :: t :: pieces) =
      if isDoubleDot (encode s) then resolve file (removeLast done) (t :: pieces)
      else if isSingleDot (encode s) then resolve file done (t :: pieces)
      else resolve file (push file done s) (t :: pieces) := rfl

/-- A piece is pushed exactly if it is neither of the two dot segments. -/
theorem isDot_eq_false_iff {s : Text} :
    isDot s = false ↔ isDoubleDot s = false ∧ isSingleDot s = false := by
  rw [isDot, Bool.or_eq_false_iff, and_comm]

/-- Pieces without dot segments are left as they are.  In the path of a file, the first segment
has to be there already. -/
theorem resolve_append {file : Bool} {pieces : List Text} (h : ∀ s ∈ pieces, IsPlain s)
    {done : List Text} (hdone : file → done ≠ []) :
    resolve file done pieces = done.reverse ++ pieces := by
  induction pieces generalizing done with
  | nil => rw [resolve, List.append_nil]
  | cons s pieces ih =>
    obtain ⟨hkept, hdot⟩ := h s List.mem_cons_self
    obtain ⟨hdouble, hsingle⟩ := isDot_eq_false_iff.mp hdot
    have hpush : push file done s = s :: done := by
      rw [push, if_neg (by simpa using hdone), encode_eq_self hkept]
    have ih : resolve file (s :: done) pieces = (s :: done).reverse ++ pieces :=
      ih (fun t ht => h t (List.mem_cons_of_mem _ ht)) (by simp)
    rw [List.reverse_cons, List.append_assoc] at ih
    cases pieces with
    | nil => simp [resolve, hpush, encode_eq_self hkept, hdouble, hsingle]
    | cons t pieces =>
      rw [resolve_cons, encode_eq_self hkept, hdouble, hsingle, if_neg (by decide),
        if_neg (by decide), hpush, ih]
      rfl

/-- **Pieces without dot segments are left as they are.** -/
theorem resolve_eq {pieces : List Text} (h : ∀ s ∈ pieces, IsPlain s) (done : List Text) :
    resolve false done pieces = done.reverse ++ pieces :=
  resolve_append h (by simp)

/-- Leaving a segment does not make a path longer. -/
theorem length_removeLast_le (done : List Text) : (removeLast done).length ≤ done.length := by
  unfold removeLast
  split
  · exact Nat.le_refl _
  · split <;> simp

/-- A path is never longer than what it was read from: every piece adds one segment at most. -/
theorem length_resolve_le (done pieces : List Text) :
    (resolve false done pieces).length ≤ done.length + pieces.length := by
  induction pieces generalizing done with
  | nil => simp [resolve]
  | cons s pieces ih =>
    -- The last piece stands apart, as a dot segment leaves an empty segment there.
    have hremove := length_removeLast_le done
    cases pieces with
    | nil =>
      rw [resolve]
      split
      · simpa using hremove
      · split
        · simp
        · simp [push]
    | cons t pieces =>
      rw [resolve_cons]
      split
      · have := ih (removeLast done)
        simp only [List.length_cons] at this ⊢
        omega
      · split
        · have := ih done
          simp only [List.length_cons] at this ⊢
          omega
        · have := ih (push false done s)
          simp only [push, Bool.false_and, if_neg Bool.false_ne_true, List.length_cons] at this ⊢
          omega

/-- **A dot segment shortens the path, or leaves an empty segment in its place at the end.** -/
theorem length_resolve_lt_or {pieces : List Text} (h : ∃ s ∈ pieces, isDot (encode s))
    (done : List Text) :
    (resolve false done pieces).length < done.length + pieces.length ∨
      (resolve false done pieces).getLast? = some [] ∧
        ∃ s, pieces.getLast? = some s ∧ isDot (encode s) := by
  induction pieces generalizing done with
  | nil => simp at h
  | cons s pieces ih =>
    cases pieces with
    | nil =>
      obtain ⟨_, hmem, hdot⟩ := h
      obtain rfl := List.mem_singleton.mp hmem
      refine .inr ⟨?_, _, rfl, hdot⟩
      rw [isDot, Bool.or_eq_true] at hdot
      rw [resolve]
      split
      case isTrue => simp
      case isFalse hdouble =>
        rw [if_pos (hdot.resolve_right hdouble)]
        simp
    | cons t pieces =>
      -- A dot segment here costs a piece at once, and the rest cannot make up for it.
      have hle := length_resolve_le
      rw [resolve_cons]
      split
      case isTrue =>
        have hle := hle (removeLast done) (t :: pieces)
        have hremove := length_removeLast_le done
        simp only [List.length_cons] at hle ⊢
        exact .inl (by omega)
      case isFalse hdouble =>
        split
        case isTrue =>
          have hle := hle done (t :: pieces)
          simp only [List.length_cons] at hle ⊢
          exact .inl (by omega)
        case isFalse hsingle =>
          obtain ⟨u, hmem, hdot⟩ := h
          have hrest : ∃ u ∈ t :: pieces, isDot (encode u) := by
            rcases List.mem_cons.mp hmem with rfl | hmem
            · rw [isDot, Bool.or_eq_true] at hdot
              exact absurd hdot (by simp [hdouble, hsingle])
            · exact ⟨u, hmem, hdot⟩
          rcases ih hrest (push false done s) with hlt | ⟨hlast, hpiece⟩
          · refine .inl ?_
            simp only [push, Bool.false_and, if_neg Bool.false_ne_true, List.length_cons] at hlt ⊢
            omega
          · exact .inr ⟨hlast, by rwa [List.getLast?_cons_cons]⟩

/-- Without tabs and line breaks, no piece is a drive letter that one of them ends. -/
theorem brokenDrive?_eq_none {s : Text} (h : ∀ c ∈ s, Url.isBreak c = false) :
    brokenDrive? s = none := by
  have hdrop {t : Text} (ht : ∀ c ∈ t, c ∈ s) : t.dropWhile Url.isBreak = t := by
    cases t with
    | nil => rfl
    | cons c t =>
      rw [List.dropWhile_cons, h c (ht c List.mem_cons_self)]
      rfl
  unfold brokenDrive?
  rw [hdrop fun c hc => hc]
  split
  case h_1 => rfl
  case h_2 letter t =>
    rw [hdrop fun c hc => List.mem_cons_of_mem _ hc]
    split
    case h_1 c t => simp [h c (by simp)]
    case h_2 => rfl

/-- The segments of a piece that is no dot segment. -/
theorem isDot_eq_false_of_mem_push {file : Bool} {done : List Text} {s : Text}
    (hbreak : file → ∀ c ∈ s, Url.isBreak c = false) (hs : isDot (encode s) = false)
    (hdone : ∀ t ∈ done, isDot t = false) : ∀ t ∈ push file done s, isDot t = false := by
  intro t ht
  unfold push at ht
  split at ht
  case isTrue hfile =>
    rw [brokenDrive?_eq_none (hbreak (Bool.and_eq_true_iff.mp hfile).1)] at ht
    dsimp only at ht
    split at ht
    case isTrue hdrive =>
      obtain rfl := List.mem_singleton.mp ht
      -- A drive letter is written with a colon, which no spelling of points ends in.
      have hne : ∀ u : Text, isDot u → u.getLast? ≠ some ':' := by
        intro u hu
        rw [isDot, Bool.or_eq_true, isSingleDot_iff_mem, isDoubleDot_iff_exists] at hu
        have hpoints : ∀ p ∈ points, p.getLast? ≠ some ':' := by decide
        have hpairs : ∀ p ∈ points, ∀ q ∈ points, (p ++ q).getLast? ≠ some ':' := by decide
        rcases hu with hu | ⟨p, hp, q, hq, rfl⟩
        · exact hpoints u hu
        · exact hpairs p hp q hq
      rw [Bool.eq_false_iff]
      exact fun hu => hne _ hu (by simp)
    case isFalse => rwa [List.mem_singleton.mp ht]
  case isFalse =>
    rcases List.mem_cons.mp ht with rfl | ht
    · exact hs
    · exact hdone t ht

/-- Leaving a segment brings no new ones. -/
theorem mem_of_mem_removeLast {done : List Text} {s : Text} (h : s ∈ removeLast done) :
    s ∈ done := by
  unfold removeLast at h
  split at h
  · exact h
  · split at h
    · exact h
    · exact List.mem_cons_of_mem _ h

/-- What holds of the empty segment, and of what is pushed, holds of what is resolved. -/
theorem forall_mem_resolve {P : Text → Prop} {file : Bool} {done pieces : List Text} (hnil : P [])
    (hpush : ∀ s ∈ pieces, isDot (encode s) = false → ∀ done, (∀ t ∈ done, P t) →
      ∀ t ∈ push file done s, P t)
    (hdone : ∀ t ∈ done, P t) : ∀ t ∈ resolve file done pieces, P t := by
  induction pieces generalizing done with
  | nil => exact fun t ht => hdone t (List.mem_reverse.mp ht)
  | cons s pieces ih =>
    have hremove : ∀ t ∈ removeLast done, P t := fun t ht => hdone t (mem_of_mem_removeLast ht)
    have hempty {done : List Text} (hdone : ∀ t ∈ done, P t) :
        ∀ t ∈ ([] :: done).reverse, P t := by
      intro t ht
      rcases List.mem_cons.mp (List.mem_reverse.mp ht) with rfl | ht
      · exact hnil
      · exact hdone t ht
    -- What is pushed is no dot segment.
    have hpushed (hdouble : ¬isDoubleDot (encode s)) (hsingle : ¬isSingleDot (encode s)) :
        ∀ t ∈ push file done s, P t :=
      hpush s List.mem_cons_self (by simp [isDot, hdouble, hsingle]) done hdone
    have ih {done : List Text} (hdone : ∀ t ∈ done, P t) : ∀ t ∈ resolve file done pieces, P t :=
      ih (fun t ht => hpush t (List.mem_cons_of_mem _ ht)) hdone
    cases pieces with
    | nil =>
      rw [resolve]
      split
      · exact hempty hremove
      · split
        · exact hempty hdone
        case isFalse hdouble hsingle =>
          exact fun t ht => hpushed hdouble hsingle t (List.mem_reverse.mp ht)
    | cons t pieces =>
      rw [resolve_cons]
      split
      · exact ih hremove
      · split
        · exact ih hdone
        case isFalse hdouble hsingle => exact ih (hpushed hdouble hsingle)

end Segments
end Routing
