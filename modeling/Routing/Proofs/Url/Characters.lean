/-
# The characters of a path that was read

A reference that begins with a slash has a path of characters that a path keeps, and no backslash
is among them (`kept_of_read?`): all others are percent-encoded, separate segments or begin the
query or the fragment.

The statement follows the ways in which a reference can lead to segments (`Reference`): with an
authority, from the root, and from the path before.  A slash at the front leaves the first two, and
in both the segments come out of the reader for segments, which encodes all it pushes.
-/

import Routing.Proofs.Url.Rendering

namespace Routing

/-- What holds of the kept characters of a text, of `%` and of the hexadecimal digits holds of
the characters that the text is encoded to. -/
theorem Percent.forall_mem_encode {kept : Kept} {P : Char → Prop} {s : Text}
    (hkept : ∀ c ∈ s, kept c → P c) (hpercent : P '%')
    (hhex : ∀ c, (Text.hexValue? c).isSome → P c) : ∀ c ∈ encode kept s, P c := by
  intro c hc
  obtain ⟨d, hd, hmem⟩ := List.mem_flatMap.mp hc
  unfold encodeChar at hmem
  split at hmem
  case isTrue hk =>
    obtain rfl := List.mem_singleton.mp hmem
    exact hkept c hd hk
  case isFalse =>
    have hescaped : Escaped (fun _ => false) ((String.utf8EncodeChar d).flatMap octet) :=
      .flatMap_octet _
    exact hescaped.forall_mem (by simp) hpercent hhex c hmem

/-- The segments of a path that is read keep their characters. -/
theorem Segments.kept_of_mem_read {written s : Text} (h : s ∈ read true [] written) :
    ∀ c ∈ s, Percent.path c ∧ c ≠ '\\' := by
  refine forall_mem_resolve (P := fun s => ∀ c ∈ s, Percent.path c ∧ c ≠ '\\') (by simp)
    (fun piece hpiece _ done hdone t ht => ?_) (by simp) s h
  rw [push, Bool.false_and, if_neg (by decide), List.mem_cons] at ht
  rcases ht with rfl | ht
  · refine Percent.forall_mem_encode (fun c hc hkept => ⟨hkept, ?_⟩) (by decide) fun c hc => ?_
    · rintro rfl
      have := Text.not_mem_of_mem_splitBy hpiece '\\' (List.mem_filter.mp hc).1
      simp [isSeparator] at this
    · exact Percent.of_ascii
        (P := fun c => (Text.hexValue? c).isSome → Percent.path c ∧ c ≠ '\\') (by decide)
        (Percent.lt_of_hexValue?_isSome hc) hc
  · exact hdone t ht

namespace Reference

/-- An authority of a special URL is followed by segments. -/
theorem exists_of_withAuthority {scheme s : Text} {url : Url} (hspecial : Url.isSpecial scheme)
    (h : withAuthority scheme s = some url) : ∃ t, url = withSegments scheme [] t := by
  obtain ⟨rest, -, rfl⟩ := Option.map_eq_some_iff.mp h
  rw [hspecial]
  cases rest with
  | nil => exact ⟨[], rfl⟩
  | cons c behind =>
    dsimp only
    split
    · exact ⟨behind, rfl⟩
    · exact ⟨c :: behind, by simp⟩

/-- A reference that begins with a slash leads to segments of its own. -/
theorem exists_of_joinRelative {base url : Url} {segments : List Text} {s : Text}
    (hspecial : Url.isSpecial base.scheme) (h : joinRelative base segments ('/' :: s) = some url) :
    ∃ t, url = withSegments base.scheme [] t := by
  unfold joinRelative at h
  dsimp only at h
  rw [if_neg (by decide), if_pos (by decide)] at h
  split at h
  · split at h
    · exact exists_of_withAuthority hspecial h
    · split at h
      · exact exists_of_withAuthority hspecial h
      · exact ⟨_, (Option.some.inj h).symm⟩
  · exact ⟨_, (Option.some.inj h).symm⟩

end Reference

/-- A reference that begins with a slash brings no scheme. -/
theorem Url.exists_join_eq {base : Url} {segments : List Text} {s : Text}
    (hscheme : isFile base.scheme = false) (hpath : base.path = .segmented segments)
    (hs : s.head? = some '/') :
    ∃ t, base.join s = Reference.joinRelative base segments ('/' :: t) := by
  obtain ⟨t, ht⟩ := List.head?_eq_some_iff.mp
    (Text.head?_trimBy (p := fun c => decide (c.toNat ≤ 0x20)) (by decide) hs)
  have hnone : Reference.scheme? ('/' :: t) = none := rfl
  have hbreaks : dropBreaks ('/' :: t) = '/' :: dropBreaks t := rfl
  refine ⟨dropBreaks t, ?_⟩
  rw [Url.join, Reference.trim, ht, hnone]
  dsimp only
  rw [if_neg (by simp), hpath]
  dsimp only
  rw [hscheme, if_neg (by decide), hbreaks]

namespace Address

/-- **What is read of a path consists of characters that a path keeps.** -/
theorem kept_of_read? {s : Text} {a : Address} (hs : s.head? = some '/') (h : read? s = some a) :
    ∀ c ∈ a.path, Percent.path c ∧ c ≠ '\\' := by
  obtain ⟨url, hurl, rfl⟩ := Option.map_eq_some_iff.mp h
  obtain ⟨t, ht⟩ : ∃ t, origin.join s = Reference.joinRelative origin [[]] ('/' :: t) :=
    Url.exists_join_eq rfl rfl hs
  rw [ht] at hurl
  obtain ⟨u, rfl⟩ := Reference.exists_of_joinRelative (by decide) hurl
  intro c hc
  obtain ⟨segment, hsegment, hc⟩ := List.mem_flatMap.mp hc
  rcases List.mem_cons.mp hc with rfl | hc
  · decide
  · exact Segments.kept_of_mem_read hsegment c hc

end Address
end Routing
