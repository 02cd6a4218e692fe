/-
# Paths that are read as another path

A written path that is not canonical loses something when it is read: the host takes what
stands between two slashes at the front, and a dot segment leaves or is emptied.  The path that
is read then has fewer slashes, or it ends in one that was not at the end
(`isCanonical_or_of_read?`).

The argument counts slashes.  An authority takes a part of the text at the front, so a part of the
end is left (`skipAuthority?_append`), with no more slashes than there were.  A dot segment takes
its own slash with it, unless it is the last piece: then an empty segment takes its place, and the
path ends in a slash, which a path whose last piece is a dot segment does not.
-/

import Routing.Proofs.Url.Rendering

namespace Routing
namespace Address

/-- A text has one piece more than it has slashes. -/
theorem length_splitBy_slash (s : Text) :
    (Text.splitBy (· == '/') s).length = s.count '/' + 1 := by
  induction s with
  | nil => rfl
  | cons c s ih =>
    rw [Text.splitBy]
    by_cases hc : c = '/'
    · simp [hc, ih]
    · cases hsplit : Text.splitBy (· == '/') s with
      | nil => exact absurd hsplit (Text.splitBy_ne_nil _ _)
      | cons piece pieces =>
        rw [hsplit] at ih
        simpa [hc] using ih

/-- Segments without slashes make up a path with one slash for each of them. -/
theorem count_slash_toText {segments : List Text} (h : ∀ s ∈ segments, '/' ∉ s) :
    (UrlPath.segmented segments).toText.count '/' = segments.length := by
  induction segments with
  | nil => rfl
  | cons s segments ih =>
    have ih := ih fun t ht => h t (List.mem_cons_of_mem _ ht)
    rw [UrlPath.toText] at ih ⊢
    rw [List.flatMap_cons, List.count_append, ih, List.count_cons_self,
      List.count_eq_zero.mpr (h s List.mem_cons_self), List.length_cons]
    omega

/-- The last segment ends the path. -/
theorem getLast?_toText {segments : List Text} {s : Text} (h : segments.getLast? = some s) :
    ∃ front, (UrlPath.segmented segments).toText = front ++ '/' :: s := by
  obtain ⟨init, rfl⟩ := List.getLast?_eq_some_iff.mp h
  exact ⟨(UrlPath.segmented init).toText, by simp [UrlPath.toText]⟩

/-- No piece of a path has a slash. -/
theorem not_mem_of_mem_pieces {path s : Text} (h : s ∈ pieces path) : '/' ∉ s := by
  intro hmem
  have := Text.not_mem_of_mem_splitBy h '/' hmem
  simp at this

namespace IsWritten

variable {path : Text}

/-- A written path has as many slashes as pieces. -/
theorem count_slash (h : IsWritten path) : path.count '/' = (pieces path).length := by
  rw [pieces, length_splitBy_slash]
  conv => lhs; rw [h.eq_cons]
  rw [List.count_cons_self]

/-- A written path is made up of its pieces, dot segments or not. -/
theorem toText_pieces (h : IsWritten path) : (UrlPath.segmented (pieces path)).toText = path := by
  rw [UrlPath.toText, pieces, flatMap_cons_eq '/' (Text.splitBy_ne_nil _ _),
    Text.intercalate_splitBy, ← h.eq_cons]

/-- The segments of a written path have no slashes. -/
theorem not_mem_of_mem_resolve (h : IsWritten path) :
    ∀ s ∈ Segments.resolve false [] (pieces path), '/' ∉ s := by
  refine Segments.forall_mem_resolve (P := fun s => '/' ∉ s) List.not_mem_nil
    (fun s hs _ done hdone t ht => ?_) (by simp)
  rw [Segments.push, Bool.false_and, if_neg (by decide), Segments.encode_eq_self (h.isKept s hs),
    List.mem_cons] at ht
  rcases ht with rfl | ht
  · exact not_mem_of_mem_pieces hs
  · exact hdone t ht

end IsWritten

/-- Behind an authority that stands before a part of `t`, a part of `t` is left. -/
theorem skipAuthority?_append {special : Bool} {t s rest : Text}
    (hs : s.head?.all Reference.endsPath)
    (h : Reference.skipAuthority? special (t ++ s) = some rest) :
    ∃ t', t' <:+ t ∧ rest = t' ++ s := by
  let p (c : Char) : Bool := !(Reference.endsPath c || Segments.isSeparator special c)
  have hs' : s.takeWhile p = [] := by
    cases s with
    | nil => rfl
    | cons c s =>
      have hc : Reference.endsPath c := by simpa using hs
      simp [p, hc]
  -- The authority ends inside `t`, because `s` is empty or begins with a character that ends it.
  have hauthority : (t ++ s).takeWhile p = t.takeWhile p := by
    rw [List.takeWhile_append]
    split
    case isTrue hall => rw [hs', List.append_nil, (List.takeWhile_prefix p).eq_of_length hall]
    case isFalse => rfl
  have hrest : (t ++ s).drop (t.takeWhile p).length = t.dropWhile p ++ s := by
    conv => lhs; rw [← List.takeWhile_append_dropWhile (p := p) (l := t), List.append_assoc]
    rw [List.takeWhile_append_dropWhile, List.drop_left]
  have hsuffix {after : Text} (hafter : after <:+ t.takeWhile p) :
      after ++ t.dropWhile p <:+ t := by
    obtain ⟨front, hfront⟩ := hafter
    refine ⟨front, ?_⟩
    rw [← List.append_assoc, hfront, List.takeWhile_append_dropWhile]
  simp only [Reference.skipAuthority?] at h
  rw [hauthority, hrest] at h
  obtain ⟨-, h⟩ := Option.ite_none_left_eq_some.mp h
  obtain ⟨-, h⟩ := Option.ite_none_left_eq_some.mp h
  obtain ⟨-, h⟩ := Option.ite_none_left_eq_some.mp h
  have hnil : ∃ t', t' <:+ t ∧ t.dropWhile p ++ s = t' ++ s :=
    ⟨_, List.dropWhile_suffix p, rfl⟩
  split at h
  case h_1 => exact Option.some.inj h ▸ hnil
  case h_2 mark digits hport =>
    obtain ⟨-, h⟩ := Option.ite_none_left_eq_some.mp h
    split at h
    case h_1 => exact Option.some.inj h ▸ hnil
    case h_2 behind hafter =>
      refine ⟨_, hsuffix ?_, (Option.some.inj h).symm.trans (List.append_assoc ..).symm⟩
      -- What is left of the authority is a part of its end.
      refine (List.drop_suffix _ _).trans ((List.suffix_cons mark digits).trans ?_)
      rw [← hport]
      refine (List.drop_suffix _ _).trans ?_
      have := List.takeWhile_prefix (l := (t.takeWhile p).reverse) (· != '@')
      rw [← List.reverse_suffix, List.reverse_reverse] at this
      exact this
    case h_3 => cases h

/-- Written segments make up a path with a slash in front of each. -/
theorem count_slash_withSegments_le {t s : Text} (h : IsWritten ('/' :: t)) (scheme : Text)
    (hs : s.head?.all Reference.endsPath) :
    (Reference.withSegments scheme [] (t ++ s)).path.toText.count '/' ≤ 1 + t.count '/' := by
  have hsegments := h.withSegments_eq scheme hs
  have hlength := Segments.length_resolve_le [] (pieces ('/' :: t))
  rw [← h.count_slash, List.count_cons_self, List.length_nil] at hlength
  rw [List.tail_cons] at hsegments
  rw [hsegments, Reference.withPath, count_slash_toText h.not_mem_of_mem_resolve]
  omega

/-- What is left behind an authority has no more slashes than the text, with one for the root. -/
theorem count_slash_withAuthority_le {t s : Text} {url : Url} (h : IsWritten ('/' :: t))
    (hs : s.head?.all Reference.endsPath)
    (hurl : Reference.withAuthority origin.scheme (t ++ s) = some url) :
    url.path.toText.count '/' ≤ 1 + t.count '/' := by
  have hspecial : Url.isSpecial origin.scheme = true := by decide
  have hwritten {x : Text} (hx : x <:+ t) : IsWritten ('/' :: x) := by
    refine ⟨rfl, fun c hc => h.kept c ?_⟩
    rcases List.mem_cons.mp hc with rfl | hc
    · exact List.mem_cons_self
    · exact List.mem_cons_of_mem _ (hx.subset hc)
  -- Whatever the authority takes, what is left to the path is a suffix of the text.
  have hle {x : Text} (hx : x <:+ t) :
      (Reference.withSegments origin.scheme [] (x ++ s)).path.toText.count '/' ≤
        1 + t.count '/' :=
    Nat.le_trans (count_slash_withSegments_le (hwritten hx) _ hs)
      (Nat.add_le_add_left (hx.sublist.count_le '/') 1)
  rw [Reference.withAuthority, hspecial] at hurl
  obtain ⟨rest, hrest, rfl⟩ := Option.map_eq_some_iff.mp hurl
  obtain ⟨t', hsuffix, rfl⟩ := skipAuthority?_append hs hrest
  split
  case h_1 hnil =>
    obtain ⟨-, rfl⟩ := List.append_eq_nil_iff.mp hnil
    exact hle List.nil_suffix
  case h_2 c behind hcons =>
    split
    case isTrue hseparator =>
      cases t' with
      | nil =>
        obtain rfl : s = c :: behind := hcons
        have hends : Reference.endsPath c := by simpa using hs
        simp only [Reference.endsPath, Bool.or_eq_true, beq_iff_eq] at hends
        rcases hends with rfl | rfl <;> exact absurd hseparator (by decide)
      | cons d t' =>
        obtain ⟨rfl, rfl⟩ := List.cons.inj hcons
        exact hle ((List.suffix_cons d t').trans hsuffix)
    case isFalse =>
      rw [if_neg (by simp)]
      exact hle hsuffix

/-- **A written path is canonical, or it is read with fewer slashes or with another end.**  The
literals of a pattern fix the slashes and tell the end, so a path that it decodes is canonical. -/
theorem isCanonical_or_of_read? {a a' : Address} (h : IsWritten a.path)
    (hread : read? a.render = some a') :
    IsCanonical a.path ∨ a'.path.count '/' < a.path.count '/' ∨
      a'.path.getLast? = some '/' ∧ a.path.getLast? ≠ some '/' := by
  obtain ⟨url, hurl, rfl⟩ := Option.map_eq_some_iff.mp hread
  by_cases hsingle : a.path.tail.head? = some '/'
  · -- The host takes at least one slash.
    obtain ⟨t, ht⟩ := List.head?_eq_some_iff.mp hsingle
    have hpath : a.path = '/' :: '/' :: t := by rw [h.eq_cons, ht]
    have hwritten : IsWritten ('/' :: t) :=
      ⟨rfl, fun c hc => h.kept c (hpath ▸ List.mem_cons_of_mem _ hc)⟩
    rw [h.join_eq_joinRelative rfl rfl, ht] at hurl
    have hle := count_slash_withAuthority_le hwritten a.endsPath_head?_afterPath hurl
    rw [hpath, List.count_cons_self, List.count_cons_self]
    exact .inr (.inl (by show url.path.toText.count '/' < _; omega))
  · by_cases hdots : ∃ s ∈ pieces a.path, Segments.isDot s
    · rw [h.join_render hsingle rfl rfl] at hurl
      obtain rfl := Option.some.inj hurl
      have hencode {s : Text} (hs : s ∈ pieces a.path) : Segments.encode s = s :=
        Segments.encode_eq_self (h.isKept s hs)
      have hdots' : ∃ s ∈ pieces a.path, Segments.isDot (Segments.encode s) := by
        obtain ⟨s, hs, hdot⟩ := hdots
        exact ⟨s, hs, by rwa [hencode hs]⟩
      have hcount := count_slash_toText h.not_mem_of_mem_resolve
      -- A dot segment takes a slash away with it, or it stands at the end and leaves an empty
      -- segment, so that the path ends in a slash as it did not before.
      rcases Segments.length_resolve_lt_or hdots' [] with hlt | ⟨hlast, s, hs, hdot⟩
      · refine .inr (.inl ?_)
        show (UrlPath.segmented _).toText.count '/' < _
        rw [hcount, h.count_slash]
        simpa using hlt
      · refine .inr (.inr ⟨?_, ?_⟩)
        · obtain ⟨front, hfront⟩ := getLast?_toText hlast
          show (UrlPath.segmented _).toText.getLast? = _
          rw [hfront]
          simp
        · obtain ⟨front, hfront⟩ := getLast?_toText hs
          have hmem := List.mem_of_getLast? hs
          rw [hencode hmem] at hdot
          rw [h.toText_pieces] at hfront
          cases hlast : s.getLast? with
          | none =>
            obtain rfl := List.getLast?_eq_none_iff.mp hlast
            exact absurd hdot (by decide)
          | some c =>
            rw [hfront, List.getLast?_append, List.getLast?_cons, hlast]
            intro heq
            obtain rfl : c = '/' := by simpa using heq
            exact not_mem_of_mem_pieces hmem (List.mem_of_getLast? hlast)
    · refine .inl ⟨h, hsingle, fun s hs => ?_⟩
      rw [Bool.eq_false_iff]
      exact fun hdot => hdots ⟨s, hs, hdot⟩

end Address
end Routing
