/-
# Splitting undoes joining

Text is split at the characters of a set.  The pieces have none of them, and joining pieces
without them by one of them is undone by splitting (`splitBy_intercalate`).

Splitting puts each character either between two pieces or at the front of the first one, and the
inductions follow these two cases.  That the pieces are never none (`splitBy_ne_nil`) rules the
third branch of its definition out.
-/

import Mathlib.Data.List.TakeWhile
import Routing.Text.Basic

namespace Routing
namespace Text

variable {p : Char → Bool}

/-- Only what is asked of the characters of the text counts. -/
theorem splitBy_congr {q : Char → Bool} {s : Text} (h : ∀ c ∈ s, p c = q c) :
    splitBy p s = splitBy q s := by
  induction s with
  | nil => rfl
  | cons c s ih =>
    rw [splitBy, splitBy, h c List.mem_cons_self, ih fun d hd => h d (List.mem_cons_of_mem _ hd)]

/-- A text without separators is one piece. -/
theorem splitBy_eq_singleton {s : Text} (h : ∀ c ∈ s, p c = false) : splitBy p s = [s] := by
  induction s with
  | nil => rfl
  | cons c s ih =>
    rw [splitBy, if_neg (by simp [h c List.mem_cons_self]),
      ih fun d hd => h d (List.mem_cons_of_mem _ hd)]

/-- A text without separators is the first piece of what it begins. -/
theorem splitBy_append_cons {s : Text} (h : ∀ c ∈ s, p c = false) {c : Char} (hc : p c)
    (t : Text) : splitBy p (s ++ c :: t) = s :: splitBy p t := by
  induction s with
  | nil => rw [List.nil_append, splitBy, if_pos hc]
  | cons d s ih =>
    rw [List.cons_append, splitBy, if_neg (by simp [h d List.mem_cons_self]),
      ih fun d hd => h d (List.mem_cons_of_mem _ hd)]

/-- **Splitting at a separator undoes joining by it.** -/
theorem splitBy_intercalate {c : Char} (hc : p c) {pieces : List Text} (hne : pieces ≠ [])
    (h : ∀ s ∈ pieces, ∀ d ∈ s, p d = false) : splitBy p ([c].intercalate pieces) = pieces := by
  induction pieces with
  | nil => exact absurd rfl hne
  | cons s pieces ih =>
    have hs := h s List.mem_cons_self
    cases pieces with
    | nil => simpa [List.intercalate] using splitBy_eq_singleton hs
    | cons t pieces =>
      have ih := ih (by simp) fun s hs => h s (List.mem_cons_of_mem _ hs)
      rw [List.intercalate, List.intersperse_cons_cons, List.flatten_cons, List.flatten_cons,
        List.singleton_append, splitBy_append_cons hs hc, ← List.intercalate, ih]

/-- No piece has a separator. -/
theorem not_mem_of_mem_splitBy {s piece : Text} (h : piece ∈ splitBy p s) :
    ∀ c ∈ piece, p c = false := by
  induction s generalizing piece with
  | nil =>
    rw [splitBy, List.mem_singleton] at h
    simp [h]
  | cons c s ih =>
    rw [splitBy] at h
    split at h
    case isTrue =>
      rcases List.mem_cons.mp h with rfl | h
      · simp
      · exact ih h
    case isFalse hc =>
      split at h
      case h_1 heq => exact absurd heq (splitBy_ne_nil p s)
      case h_2 first pieces heq =>
        rcases List.mem_cons.mp h with rfl | h
        · intro d hd
          rcases List.mem_cons.mp hd with rfl | hd
          · simpa using hc
          · exact ih (heq ▸ List.mem_cons_self) d hd
        · exact ih (heq ▸ List.mem_cons_of_mem _ h)

/-- Every character of a piece is one of the text. -/
theorem mem_of_mem_splitBy {s piece : Text} (h : piece ∈ splitBy p s) : ∀ c ∈ piece, c ∈ s := by
  induction s generalizing piece with
  | nil =>
    rw [splitBy, List.mem_singleton] at h
    simp [h]
  | cons c s ih =>
    rw [splitBy] at h
    split at h
    case isTrue =>
      rcases List.mem_cons.mp h with rfl | h
      · simp
      · exact fun d hd => List.mem_cons_of_mem _ (ih h d hd)
    case isFalse hc =>
      split at h
      case h_1 heq => exact absurd heq (splitBy_ne_nil p s)
      case h_2 first pieces heq =>
        rcases List.mem_cons.mp h with rfl | h
        · intro d hd
          rcases List.mem_cons.mp hd with rfl | hd
          · exact List.mem_cons_self
          · exact List.mem_cons_of_mem _ (ih (heq ▸ List.mem_cons_self) d hd)
        · exact fun d hd => List.mem_cons_of_mem _ (ih (heq ▸ List.mem_cons_of_mem _ h) d hd)

/-- Joining the pieces by the only separator restores the text. -/
theorem intercalate_splitBy (c : Char) (s : Text) :
    [c].intercalate (splitBy (· == c) s) = s := by
  induction s with
  | nil => rfl
  | cons d s ih =>
    rw [splitBy]
    split
    case isTrue h =>
      obtain rfl : d = c := by simpa using h
      cases hs : splitBy (· == d) s with
      | nil => exact absurd hs (splitBy_ne_nil _ s)
      | cons piece pieces =>
        rw [hs, List.intercalate] at ih
        rw [List.intercalate, List.intersperse_cons_cons, List.flatten_cons, List.flatten_cons, ih]
        rfl
    case isFalse h =>
      split
      case h_1 heq => exact absurd heq (splitBy_ne_nil _ s)
      case h_2 piece pieces heq =>
        rw [heq] at ih
        rw [← ih]
        cases pieces with
        | nil => simp [List.intercalate]
        | cons t pieces => simp [List.intercalate]

/-- Cutting at a character finds its first occurrence. -/
theorem cutAt_append_cons {c : Char} {s : Text} (h : c ∉ s) (t : Text) :
    cutAt c (s ++ c :: t) = (s, some t) := by
  induction s with
  | nil => rw [List.nil_append, cutAt, if_pos rfl]
  | cons d s ih =>
    have hd : ¬ d = c := fun heq => h (heq ▸ List.mem_cons_self)
    rw [List.cons_append, cutAt, if_neg hd, ih fun hs => h (List.mem_cons_of_mem _ hs)]

/-- A text without the character is not cut. -/
theorem cutAt_of_not_mem {c : Char} {s : Text} (h : c ∉ s) : cutAt c s = (s, none) := by
  induction s with
  | nil => rfl
  | cons d s ih =>
    have hd : ¬ d = c := fun heq => h (heq ▸ List.mem_cons_self)
    rw [cutAt, if_neg hd, ih fun hs => h (List.mem_cons_of_mem _ hs)]

/-- Trimming adds no characters. -/
theorem mem_of_mem_trimBy {s : Text} {c : Char} (h : c ∈ trimBy p s) : c ∈ s := by
  rw [trimBy, List.mem_reverse] at h
  exact (List.dropWhile_suffix p).subset
    (List.mem_reverse.mp ((List.dropWhile_suffix p).subset h))

/-- Nothing is trimmed off the front if the first character stays. -/
theorem head?_trimBy {s : Text} {c : Char} (hc : p c = false) (h : s.head? = some c) :
    (trimBy p s).head? = some c := by
  obtain ⟨t, rfl⟩ := List.head?_eq_some_iff.mp h
  rw [trimBy, List.dropWhile_cons, hc, if_neg (by decide), List.reverse_cons, List.dropWhile_append]
  split
  · rw [List.dropWhile_cons, hc]
    rfl
  · rw [List.reverse_append]
    rfl

/-- A text with nothing to trim at all stays as it is. -/
theorem trimBy_eq_self {s : Text} (h : ∀ c ∈ s, p c = false) : trimBy p s = s := by
  have hdrop {t : Text} (ht : ∀ c ∈ t, p c = false) : t.dropWhile p = t := by
    cases t with
    | nil => rfl
    | cons c t => rw [List.dropWhile_cons, ht c List.mem_cons_self]; rfl
  rw [trimBy, hdrop h, hdrop fun c hc => h c (List.mem_reverse.mp hc), List.reverse_reverse]

/-- A wider set drops what a narrower one has dropped before, and then goes on. -/
theorem dropWhile_dropWhile {p q : Char → Bool} (h : ∀ c, p c → q c) (s : Text) :
    (s.dropWhile p).dropWhile q = s.dropWhile q := by
  induction s with
  | nil => rfl
  | cons c s ih =>
    cases hc : p c with
    | true => rw [List.dropWhile_cons_of_pos hc, List.dropWhile_cons_of_pos (h c hc), ih]
    | false => rw [List.dropWhile_cons_of_neg (by simp [hc])]

/-- What is trimmed off first would be trimmed off later. -/
theorem trimBy_trimBy {p q : Char → Bool} (h : ∀ c, p c → q c) (s : Text) :
    trimBy q (trimBy p s) = trimBy q s := by
  -- When the front is cut off at last, nothing is left of what was cut off the end before.
  have hback (t : Text) : trimBy q (t.reverse.dropWhile p).reverse = trimBy q t := by
    have hsplit : t = (t.reverse.dropWhile p).reverse ++ (t.reverse.takeWhile p).reverse := by
      rw [← List.reverse_append, List.takeWhile_append_dropWhile, List.reverse_reverse]
    have hall : ∀ c ∈ t.reverse.takeWhile p, q c := fun c hc =>
      h c (List.all_eq_true.mp List.all_takeWhile c hc)
    conv => rhs; rw [hsplit]
    rw [trimBy, trimBy, List.dropWhile_append]
    split
    case isTrue hempty =>
      rw [List.isEmpty_iff.mp hempty, List.dropWhile_eq_nil_iff.mpr fun c hc =>
        hall c (List.mem_reverse.mp hc)]
    case isFalse =>
      rw [List.reverse_append, List.reverse_reverse, List.dropWhile_append_of_pos hall]
  show trimBy q ((s.dropWhile p).reverse.dropWhile p).reverse = trimBy q s
  rw [hback, trimBy, dropWhile_dropWhile h, trimBy]

end Text
end Routing
