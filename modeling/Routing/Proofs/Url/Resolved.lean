/-
# Resolved paths

A path that was read has no dot segments left (`isResolved_join`).  There is one exception, which
takes a line break: behind a drive letter in the URL of a file, a dot segment stays as it is
written.

A path comes from the path before, from segments that are resolved anew, or from text that is not
taken apart.  There is one lemma for each function that reads a reference, and each carries the
same property of paths (`UrlPath.IsResolved`) from the path before to the new one, so that
`isResolved_join` only has to follow the choice between them.
-/

import Routing.Proofs.Url.Rendering

namespace Routing

/-- No segment of the path is a dot segment or has a slash.  Unstructured text does not begin with
a slash. -/
def UrlPath.IsResolved : UrlPath → Prop
  | segmented segments => ∀ s ∈ segments, Segments.isDot s = false ∧ '/' ∉ s
  | unstructured text => text.head? ≠ some '/'

/-- Encoding brings no slashes. -/
theorem Percent.slash_mem_of_mem_encode {kept : Percent.Kept} {s : Text}
    (h : '/' ∈ Percent.encode kept s) : '/' ∈ s := by
  obtain ⟨c, hc, hmem⟩ := List.mem_flatMap.mp h
  unfold Percent.encodeChar at hmem
  split at hmem
  · rwa [List.mem_singleton.mp hmem]
  · obtain ⟨b, -, hb⟩ := List.mem_flatMap.mp hmem
    have hlt := b.toNat_lt
    have hdigits : ∀ n < 16, Text.hexDigit n ≠ '/' := by decide
    simp only [Percent.octet, List.mem_cons, List.not_mem_nil, or_false] at hb
    rcases hb with hb | hb | hb
    · exact absurd hb (by decide)
    · exact absurd hb.symm (hdigits _ (by omega))
    · exact absurd hb.symm (hdigits _ (by omega))

/-! ### Resolving segments -/

namespace Segments

/-- A piece without slashes is encoded to a segment without slashes. -/
theorem slash_not_mem_encode {s : Text} (h : '/' ∉ s) : '/' ∉ encode s :=
  fun hmem => h (List.mem_filter.mp (Percent.slash_mem_of_mem_encode hmem)).1

/-- What is pushed is resolved. -/
theorem isResolved_push {file : Bool} {done : List Text} {s : Text}
    (hbreak : file → ∀ c ∈ s, Url.isBreak c = false) (hslash : '/' ∉ s)
    (hdot : isDot (encode s) = false)
    (hdone : ∀ t ∈ done, isDot t = false ∧ '/' ∉ t) :
    ∀ t ∈ push file done s, isDot t = false ∧ '/' ∉ t := by
  intro t ht
  refine ⟨isDot_eq_false_of_mem_push hbreak hdot (fun t ht => (hdone t ht).1) t ht, ?_⟩
  unfold push at ht
  split at ht
  case isTrue hfile =>
    rw [brokenDrive?_eq_none (hbreak (Bool.and_eq_true_iff.mp hfile).1)] at ht
    dsimp only at ht
    split at ht
    · obtain rfl := List.mem_singleton.mp ht
      intro hmem
      rcases List.mem_append.mp hmem with hmem | hmem
      · exact slash_not_mem_encode hslash (List.mem_of_mem_take hmem)
      · exact absurd hmem (by decide)
    · rw [List.mem_singleton.mp ht]
      exact slash_not_mem_encode hslash
  case isFalse =>
    rcases List.mem_cons.mp ht with rfl | ht
    · exact slash_not_mem_encode hslash
    · exact (hdone t ht).2

/-- Pieces are resolved to a resolved path, behind one that is. -/
theorem isResolved_resolve {file special : Bool} {base : List Text} {written : Text}
    (hbreak : file → ∀ c ∈ written, Url.isBreak c = false)
    (hbase : (UrlPath.segmented base).IsResolved) :
    (UrlPath.segmented
      (resolve file base.reverse (Text.splitBy (isSeparator special) written))).IsResolved := by
  refine forall_mem_resolve (P := fun s => isDot s = false ∧ '/' ∉ s) ⟨rfl, List.not_mem_nil⟩
    (fun s hs hdot done hdone => ?_) (fun t ht => hbase t (List.mem_reverse.mp ht))
  refine isResolved_push (fun hfile c hc => hbreak hfile c (Text.mem_of_mem_splitBy hs c hc)) ?_
    hdot hdone
  intro hmem
  have := Text.not_mem_of_mem_splitBy hs '/' hmem
  simp [isSeparator] at this

end Segments

/-! ### Joining references -/

namespace Reference

/-- The text has no tabs and no line breaks. -/
def NoBreaks (s : Text) : Prop := ∀ c ∈ s, Url.isBreak c = false

/-- Segments that are read behind a resolved path make a resolved path. -/
theorem isResolved_withSegments (scheme : Text) {base : List Text}
    (hbase : (UrlPath.segmented base).IsResolved) (s : Text) :
    (withSegments scheme base s).path.IsResolved :=
  Segments.isResolved_resolve (by simp) hbase

/-- The empty path is resolved. -/
theorem isResolved_nil : (UrlPath.segmented []).IsResolved := by simp [UrlPath.IsResolved]

/-- Behind an authority the path is resolved. -/
theorem isResolved_withAuthority {scheme s : Text} {url : Url}
    (h : withAuthority scheme s = some url) : url.path.IsResolved := by
  obtain ⟨rest, -, rfl⟩ := Option.map_eq_some_iff.mp h
  have hsegments (s : Text) : (withSegments scheme [] s).path.IsResolved :=
    isResolved_withSegments scheme isResolved_nil s
  split
  · split
    · exact hsegments _
    · exact isResolved_nil
  · split
    · exact hsegments _
    · split
      · exact isResolved_nil
      · exact hsegments _

/-- A reference to another part of the same document keeps the path. -/
theorem path_sameDocument (base : Url) (s : Text) : (sameDocument base s).path = base.path := by
  unfold sameDocument
  split <;> rfl

/-! ### Addresses that were read -/

/-- A reference without scheme leads to a resolved path, whichever part of the URL before it
replaces. -/
theorem isResolved_joinRelative {base url : Url} {segments : List Text} {s : Text}
    (hpath : base.path = .segmented segments) (hbase : base.path.IsResolved)
    (h : joinRelative base segments s = some url) : url.path.IsResolved := by
  have hsame (s : Text) : (sameDocument base s).path.IsResolved := by
    rwa [path_sameDocument]
  have hroot (s : Text) : (withSegments base.scheme [] s).path.IsResolved :=
    isResolved_withSegments _ isResolved_nil s
  unfold joinRelative at h
  split at h
  case h_1 => exact Option.some.inj h ▸ hsame _
  case h_2 =>
    split at h
    · exact Option.some.inj h ▸ hsame _
    · split at h
      · split at h
        · split at h
          · exact isResolved_withAuthority h
          · split at h
            · exact isResolved_withAuthority h
            · exact Option.some.inj h ▸ hroot _
        · exact Option.some.inj h ▸ hroot _
      · rw [hpath] at hbase
        exact Option.some.inj h ▸
          isResolved_withSegments _ (fun t ht => hbase t ((List.dropLast_sublist _).subset ht)) _

/-- Encoding puts no slash at the front. -/
theorem head?_encode_ne_slash {kept : Percent.Kept} {s : Text} (h : s.head? ≠ some '/') :
    (Percent.encode kept s).head? ≠ some '/' := by
  cases s with
  | nil => simp [Percent.encode]
  | cons c s =>
    have hc : c ≠ '/' := by simpa using h
    rw [Percent.encode, List.flatMap_cons]
    unfold Percent.encodeChar
    split
    · simpa using hc
    · cases hoctets : String.utf8EncodeChar c with
      | nil => exact absurd hoctets String.utf8EncodeChar_ne_nil
      | cons b bs => simp [Percent.octet]

/-- The unstructured path of a text that does not begin with a slash. -/
theorem head?_encode_takeWhile_ne_slash {kept : Percent.Kept} {s : Text} (q : Char → Bool)
    (hs : ∀ t, s ≠ '/' :: t) : (Percent.encode kept (s.takeWhile q)).head? ≠ some '/' := by
  refine head?_encode_ne_slash ?_
  cases s with
  | nil => simp
  | cons c s =>
    have hc : c ≠ '/' := fun heq => hs s (heq ▸ rfl)
    rw [List.takeWhile_cons]
    split
    · simpa using hc
    · simp

/-- A reference with a scheme that is not special leads to a resolved path: text counts as one if no
slash is at its front. -/
theorem isResolved_joinOther {base url : Url} {scheme s : Text} (hbase : base.path.IsResolved)
    (h : joinOther base scheme s = some url) : url.path.IsResolved := by
  unfold joinOther at h
  split at h
  · dsimp only at h
    split at h
    case h_1 segments hpath =>
      split at h
      · exact isResolved_joinRelative hpath hbase h
      · exact isResolved_withAuthority h
    case h_2 => exact isResolved_withAuthority h
  · split at h
    case h_1 => exact isResolved_withAuthority h
    case h_2 => exact Option.some.inj h ▸ isResolved_withSegments _ isResolved_nil _
    case h_3 _ hslash =>
      obtain rfl := Option.some.inj h
      exact head?_encode_takeWhile_ne_slash _ hslash

/-- Leaving out empty segments at the front brings no new ones. -/
theorem mem_of_mem_dropEmptyFront {segments : List Text} {s : Text}
    (h : s ∈ Segments.dropEmptyFront segments) : s = [] ∨ s ∈ segments := by
  unfold Segments.dropEmptyFront at h
  split at h
  · exact .inl (List.mem_singleton.mp h)
  · exact .inr ((List.dropWhile_suffix _).subset h)

/-- The path of a file without line breaks is resolved. -/
theorem isResolved_ofFile {s : Text} (hbreaks : NoBreaks s) :
    (ofFile [] [] s).path.IsResolved := by
  intro t ht
  rcases mem_of_mem_dropEmptyFront ht with rfl | ht
  · exact ⟨rfl, List.not_mem_nil⟩
  · exact @Segments.isResolved_resolve true true []  _
      (fun _ c hc => hbreaks c (List.takeWhile_prefix _ |>.subset hc)) isResolved_nil t ht

/-- The path of a file on a host is resolved, with the drive letter that may stand in the place of
the host. -/
theorem isResolved_fileHost {s : Text} {url : Url} (hbreaks : NoBreaks s)
    (h : fileHost s = some url) : url.path.IsResolved := by
  have hdrop (n : Nat) : NoBreaks (s.drop n) := fun c hc => hbreaks c (List.mem_of_mem_drop hc)
  unfold fileHost at h
  dsimp only at h
  split at h
  · exact Option.some.inj h ▸ isResolved_ofFile hbreaks
  · split at h
    · cases h
    · split at h
      · exact Option.some.inj h ▸ isResolved_ofFile (hdrop _)
      · split at h
        case h_1 c behind hcons =>
          have hrest := hdrop (s.takeWhile (fun c => !(isSlash c || endsPath c))).length
          rw [hcons] at hrest
          refine Option.some.inj h ▸ isResolved_ofFile ?_
          split
          · exact fun c hc => hrest c (List.mem_cons_of_mem _ hc)
          · rw [hcons]; exact hrest
        case h_2 => exact Option.some.inj h ▸ isResolved_ofFile (by simp [NoBreaks])

/-- A reference with the scheme of files leads to a resolved path. -/
theorem isResolved_joinFile {s : Text} {url : Url} (hbreaks : NoBreaks s)
    (h : joinFile none s = some url) : url.path.IsResolved := by
  have hsuffix {t u : Text} (ht : NoBreaks t) (hu : u <:+ t) : NoBreaks u :=
    fun c hc => ht c (hu.subset hc)
  unfold joinFile at h
  split at h
  case h_1 => exact Option.some.inj h ▸ isResolved_ofFile (by simp [NoBreaks])
  case h_2 c behind hcons =>
    have hbehind : NoBreaks behind := by
      refine hsuffix hbreaks ((List.suffix_cons c behind).trans ?_)
      rw [← hcons]
      exact List.dropWhile_suffix _
    split at h
    · split at h
      case h_1 => exact Option.some.inj h ▸ isResolved_ofFile (by simp [NoBreaks])
      case h_2 d more hmore =>
        have hmore : NoBreaks more := by
          refine hsuffix hbehind ((List.suffix_cons d more).trans ?_)
          rw [← hmore]
          exact List.dropWhile_suffix _
        split at h
        · exact isResolved_fileHost hmore h
        · exact Option.some.inj h ▸ isResolved_ofFile hbehind
    · exact Option.some.inj h ▸ isResolved_ofFile hbreaks

/-- What stands behind a scheme is a part of the reference. -/
theorem mem_of_scheme? {s scheme behind : Text} (h : scheme? s = some (scheme, behind)) {c : Char}
    (hc : c ∈ behind) : c ∈ s := by
  unfold scheme? at h
  split at h
  case h_1 d t =>
    dsimp only at h
    split at h
    · split at h
      case h_1 rest hrest =>
        obtain ⟨-, rfl⟩ := Prod.mk.inj (Option.some.inj h)
        exact List.mem_of_mem_drop (hrest ▸ List.mem_cons_of_mem _ hc)
      case h_2 => cases h
    · cases h
  case h_2 => cases h

/-- The reference brings the scheme of files. -/
def IsFile (s : Text) : Prop := ∃ behind, scheme? (trim s) = some ("file".toList, behind)

end Reference

/-- **A reference is resolved to a resolved path**, unless it is a file with a line break in it. -/
theorem isResolved_join {base url : Url} {s : Text} (hscheme : Url.isFile base.scheme = false)
    (hbase : base.path.IsResolved) (hs : ¬Reference.IsFile s ∨ Reference.NoBreaks s)
    (h : base.join s = some url) : url.path.IsResolved := by
  unfold Url.join at h
  dsimp only at h
  split at h
  case h_1 scheme behind hread =>
    unfold Reference.joinScheme at h
    split at h
    case isTrue => exact Reference.isResolved_joinOther hbase h
    case isFalse hfile =>
      have hscheme' : scheme = "file".toList := by simpa [Url.isFile] using hfile
      -- A file is excused by having no line break, which is then true of what follows its scheme.
      have hbreaks : Reference.NoBreaks s := hs.resolve_left fun hs =>
        hs ⟨behind, hscheme' ▸ hread⟩
      have hbehind : Reference.NoBreaks behind := fun c hc =>
        hbreaks c (Text.mem_of_mem_trimBy (Reference.mem_of_scheme? hread hc))
      split at h
      · rw [if_neg (by simp [hscheme])] at h
        exact Reference.isResolved_joinFile hbehind h
      · exact Reference.isResolved_joinFile hbehind h
  case h_2 =>
    split at h
    · obtain rfl := Option.some.inj h
      rwa [Reference.path_sameDocument]
    · split at h
      case h_1 => cases h
      case h_2 segments hpath =>
        rw [if_neg (by simp [hscheme])] at h
        exact Reference.isResolved_joinRelative hpath hbase h

/-- The segments of a path are the pieces of its text. -/
theorem pieces_toText {segments : List Text} (hne : segments ≠ [])
    (h : (UrlPath.segmented segments).IsResolved) :
    Address.pieces (UrlPath.segmented segments).toText = segments := by
  rw [Address.pieces, UrlPath.toText, Address.flatMap_cons_eq '/' hne, List.tail_cons]
  refine Text.splitBy_intercalate rfl hne fun s hs c hc => ?_
  rw [beq_eq_false_iff_ne]
  rintro rfl
  exact (h s hs).2 hc

/-- **The path of an address has no dot segments**, unless a file with a line break in it was
read. -/
theorem Address.noDots_of_read? {s : Text} {a : Address} (h : Address.read? s = some a)
    (hs : ¬Reference.IsFile s ∨ Reference.NoBreaks s) (hrooted : a.path.head? = some '/') :
    ∀ t ∈ pieces a.path, Segments.isDot t = false := by
  obtain ⟨url, hurl, rfl⟩ := Option.map_eq_some_iff.mp h
  have horigin : origin.path.IsResolved := by
    intro t ht
    obtain rfl := List.mem_singleton.mp ht
    exact ⟨rfl, List.not_mem_nil⟩
  have hresolved := isResolved_join rfl horigin hs hurl
  change url.path.toText.head? = some '/' at hrooted
  show ∀ t ∈ pieces url.path.toText, Segments.isDot t = false
  cases hpath : url.path with
  | segmented segments =>
    rw [hpath] at hrooted hresolved
    have hne : segments ≠ [] := by
      rintro rfl
      simp [UrlPath.toText] at hrooted
    rw [pieces_toText hne hresolved]
    exact fun t ht => (hresolved t ht).1
  | unstructured text =>
    rw [hpath] at hrooted hresolved
    exact absurd hrooted hresolved

end Routing
