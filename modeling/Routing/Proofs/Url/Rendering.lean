/-
# Rendered addresses are read back

A rendered address begins with its path, and a path that reading leaves as it is
(`IsCanonical`) comes back as it was, with the search and the hash (`read?_render`).  The same
reference is resolved against any other URL but a file in the same way, and what is written of
the URL from its path on is the reference again (`join_render`, `pathAndAfter_toUrl`).

Reading takes a rendered address apart from the end: the fragment behind the first `#`, the query
behind the first `?`, the segments between slashes.  Every step needs only that the earlier parts
lack the character in question, which follows from the characters that each part is written with
(`IsWritten`, `isVisible_of_kept`).  The same characters are neither blanks nor line breaks, so
trimming and the dropping of line breaks do nothing.
-/

import Routing.Address
import Routing.Proofs.Dictionary
import Routing.Proofs.Text.Form
import Routing.Proofs.Text.Splitting
import Routing.Proofs.Url.Segments

namespace Routing
namespace Address

/-! ### Addresses and their parts -/

/-- The pieces of a path behind its first slash. -/
def pieces (path : Text) : List Text := Text.splitBy (· == '/') path.tail

/-- A path whose characters reading leaves as they are. -/
structure IsWritten (path : Text) : Prop where
  /-- It begins with a slash. -/
  rooted : path.head? = some '/'
  /-- A path keeps its characters, and no backslash is among them. -/
  kept : ∀ c ∈ path, Percent.path c ∧ c ≠ '\\'

/-- A path that reading leaves as it is. -/
structure IsCanonical (path : Text) : Prop extends IsWritten path where
  /-- No second slash follows the first one. -/
  single : path.tail.head? ≠ some '/'
  /-- None of its pieces is a dot segment. -/
  noDots : ∀ s ∈ pieces path, Segments.isDot s = false

/-- The query as it is rendered. -/
def query? (a : Address) : Option Text :=
  if a.search.isEmpty then none else some (Form.render a.search.entries)

/-- The fragment as it is rendered. -/
def fragment? (a : Address) : Option Text :=
  if a.hash.isEmpty then none else some (Percent.encode Percent.renderedFragment a.hash)

/-- What is rendered behind the path. -/
def afterPath (a : Address) : Text :=
  a.query?.elim [] ('?' :: ·) ++ a.fragment?.elim [] ('#' :: ·)

/-- The URL of a scheme that an address is rendered to. -/
def toUrl (a : Address) (scheme : Text) : Url :=
  { scheme, path := .segmented (pieces a.path), query := a.query?, fragment := a.fragment? }

/-- What is rendered, with the query and the fragment told apart. -/
theorem render_eq (a : Address) : a.render = a.path ++ a.afterPath := by
  rw [render, afterPath, query?, fragment?, ← List.append_assoc]
  cases a.search.isEmpty <;> cases a.hash.isEmpty <;> rfl

/-! ### Characters that are neither dropped nor trimmed -/

/-- The characters of a rendered address are no blanks and no control characters. -/
def IsVisible (c : Char) : Prop := 0x20 < c.toNat ∧ Url.isBreak c = false

instance (c : Char) : Decidable (IsVisible c) := inferInstanceAs (Decidable (_ ∧ _))

/-- Characters that are kept as printable ASCII without the blank are visible. -/
theorem isVisible_of_kept (kept : Percent.Kept)
    (hascii : ∀ c, kept c → Percent.isPrintableAscii c ∧ c ≠ ' ') {c : Char} (h : kept c) :
    IsVisible c := by
  obtain ⟨hascii, hne⟩ := hascii c h
  simp only [Percent.isPrintableAscii, Bool.and_eq_true, decide_eq_true_eq] at hascii
  exact Percent.of_ascii (P := fun c => 0x20 ≤ c.toNat → c ≠ ' ' → IsVisible c) (by decide)
    (by omega) hascii.1 hne

/-- The characters of a path are visible. -/
theorem isVisible_of_path {c : Char} (h : Percent.path c) : IsVisible c :=
  isVisible_of_kept Percent.path (fun c hc => by
    simp only [Percent.path, Percent.fragment, Bool.and_eq_true] at hc
    exact ⟨hc.1.1, by rintro rfl; simp at hc⟩) h

/-- The characters of a query are visible. -/
theorem isVisible_of_specialQuery {c : Char} (h : Percent.specialQuery c) : IsVisible c :=
  isVisible_of_kept Percent.specialQuery (fun c hc => by
    simp only [Percent.specialQuery, Percent.query, Bool.and_eq_true] at hc
    exact ⟨hc.1.1, by rintro rfl; simp at hc⟩) h

/-- A rendered hash is written in characters that reading a fragment keeps. -/
theorem fragment_of_mem_encode {s : Text} {c : Char}
    (h : c ∈ Percent.encode Percent.renderedFragment s) : Percent.fragment c := by
  refine (Percent.escaped_encode (by decide) s).forall_mem (P := fun c => Percent.fragment c) ?_
    (by decide) ?_ c h
  · intro c hc
    simp only [Percent.renderedFragment, Bool.and_eq_true] at hc
    exact hc.1
  · intro c hc
    have hlt := Percent.lt_of_hexValue?_isSome hc
    exact Percent.of_ascii (P := fun c => (Text.hexValue? c).isSome → Percent.fragment c)
      (by decide) hlt hc

/-- The characters of a fragment are visible. -/
theorem isVisible_of_fragment {c : Char} (h : Percent.fragment c) : IsVisible c :=
  isVisible_of_kept Percent.fragment (fun c hc => by
    simp only [Percent.fragment, Bool.and_eq_true] at hc
    exact ⟨hc.1, by rintro rfl; simp at hc⟩) h

/-- What stands behind a path is visible, with `?` and `#` in front. -/
theorem isVisible_of_mem_afterPath {a : Address} {c : Char} (h : c ∈ a.afterPath) :
    IsVisible c := by
  rw [afterPath, List.mem_append] at h
  rcases h with h | h
  · unfold query? at h
    split at h
    · simp at h
    · rcases List.mem_cons.mp h with rfl | h
      · decide
      · exact isVisible_of_specialQuery (Form.query_of_mem_render h)
  · unfold fragment? at h
    split at h
    · simp at h
    · rcases List.mem_cons.mp h with rfl | h
      · decide
      · exact isVisible_of_fragment (fragment_of_mem_encode h)

/-- What stands behind a path does not go on with it. -/
theorem endsPath_head?_afterPath (a : Address) : a.afterPath.head?.all Reference.endsPath := by
  unfold afterPath
  cases a.query? with
  | some q => rfl
  | none => cases a.fragment? <;> rfl

/-- The query and the fragment are read as they were rendered, for every scheme: no `#` is in the
query, and all of their characters are kept. -/
theorem queryAndFragment_afterPath (scheme : Text) (a : Address) :
    Reference.queryAndFragment scheme a.afterPath = (a.query?, a.fragment?) := by
  have hkept {s : Text} (h : ∀ c ∈ s, Percent.specialQuery c) :
      Percent.encode (if Url.isSpecial scheme then Percent.specialQuery else Percent.query) s =
        s := by
    refine Percent.encode_eq_self fun c hc => ?_
    split
    · exact h c hc
    · have := h c hc
      simp only [Percent.specialQuery, Bool.and_eq_true] at this
      exact this.1
  have hchars : ∀ query, a.query? = some query → ∀ c ∈ query, Percent.specialQuery c := by
    intro query hquery c hc
    unfold query? at hquery
    split at hquery
    · cases hquery
    · cases hquery
      exact Form.query_of_mem_render hc
  -- So the first `#`, if there is one, is where the fragment begins.
  have hquery : '#' ∉ (a.query?.elim [] ('?' :: ·) : Text) := by
    intro h
    cases hwritten : a.query? with
    | none => simp [hwritten] at h
    | some query =>
      rw [hwritten] at h
      rcases List.mem_cons.mp h with h | h
      · exact absurd h (by decide)
      · exact absurd (hchars query hwritten _ h) (by decide)
  have hcut : Text.cutAt '#' a.afterPath = (a.query?.elim [] ('?' :: ·), a.fragment?) := by
    unfold afterPath
    cases a.fragment? with
    | none =>
      rw [Option.elim_none, List.append_nil]
      exact Text.cutAt_of_not_mem hquery
    | some fragment => exact Text.cutAt_append_cons hquery fragment
  have hfragment : a.fragment?.map (Percent.encode Percent.fragment) = a.fragment? := by
    unfold fragment?
    split
    · rfl
    · exact congrArg some (Percent.encode_eq_self fun c hc => fragment_of_mem_encode hc)
  rw [Reference.queryAndFragment, hcut]
  simp only [hfragment]
  cases hwritten : a.query? with
  | none => rfl
  | some query => exact congrArg (·, _) (congrArg some (hkept (hchars query hwritten)))

/-- The characters of a piece are characters of the path. -/
theorem mem_of_mem_pieces {path s : Text} (h : s ∈ pieces path) : ∀ c ∈ s, c ∈ path :=
  fun c hc => List.mem_of_mem_tail (Text.mem_of_mem_splitBy h c hc)

/-- One slash in front leads to the root. -/
theorem joinRelative_slash (base : Url) (segments : List Text) {s : Text}
    (h : ∀ c ∈ s.head?, Reference.isSlash c = false) :
    Reference.joinRelative base segments ('/' :: s) =
      some (Reference.withSegments base.scheme [] s) := by
  cases s with
  | nil => rfl
  | cons d more =>
    have hd : Reference.isSlash d = false := h d rfl
    have hne : d ≠ '/' := by
      rintro rfl
      exact absurd hd (by decide)
    rw [Reference.joinRelative, if_neg (by decide), if_pos (by decide),
      if_neg fun heq => hne heq.2, hd, if_neg (by decide)]

/-! ### Resolving what was rendered -/

namespace IsWritten

variable {path : Text}

/-- A written path is a slash and what its pieces are taken from. -/
theorem eq_cons (h : IsWritten path) : path = '/' :: path.tail := by
  obtain ⟨s, rfl⟩ := List.head?_eq_some_iff.mp h.rooted
  rfl

/-- The pieces of a written path are kept. -/
theorem isKept (h : IsWritten path) : ∀ s ∈ pieces path, Segments.IsKept s :=
  fun _ hs c hc => (h.kept c (mem_of_mem_pieces hs c hc)).1

/-- No character of a written path begins a query or a fragment. -/
theorem endsPath_eq_false (h : IsWritten path) : ∀ c ∈ path, Reference.endsPath c = false := by
  intro c hc
  have hkept := (h.kept c hc).1
  simp only [Reference.endsPath, Bool.or_eq_false_iff, beq_eq_false_iff_ne]
  constructor <;> rintro rfl <;> exact absurd hkept (by decide)

/-- A path ends where the query or the fragment begins. -/
theorem takeWhile_append (h : IsWritten path) {s : Text} (hs : s.head?.all Reference.endsPath) :
    (path.tail ++ s).takeWhile (fun c => !Reference.endsPath c) = path.tail := by
  have hends : ∀ c ∈ path.tail, (!Reference.endsPath c) = true := fun c hc => by
    rw [h.endsPath_eq_false c (List.mem_of_mem_tail hc)]
    rfl
  rw [List.takeWhile_append_of_pos hends]
  refine List.append_right_eq_self.mpr ?_
  cases s with
  | nil => rfl
  | cons c s =>
    have hc : Reference.endsPath c := by simpa using hs
    rw [List.takeWhile_cons, hc]
    rfl

/-- A path has no separators but slashes. -/
theorem splitBy_isSeparator (h : IsWritten path) (special : Bool) :
    Text.splitBy (Segments.isSeparator special) path.tail = pieces path := by
  refine Text.splitBy_congr fun c hc => ?_
  have hne := (h.kept c (List.mem_of_mem_tail hc)).2
  simp [Segments.isSeparator, hne]

/-- The segments of a path are its pieces, resolved. -/
theorem withSegments_eq (h : IsWritten path) (scheme : Text) {s : Text}
    (hs : s.head?.all Reference.endsPath) :
    Reference.withSegments scheme [] (path.tail ++ s) =
      Reference.withPath scheme (.segmented (Segments.resolve false [] (pieces path))) s := by
  rw [Reference.withSegments, h.takeWhile_append hs, List.drop_left, Segments.read,
    h.splitBy_isSeparator]
  rfl

/-- A rendered address has nothing around it or in it that does not count. -/
theorem isVisible_of_mem_render {a : Address} (h : IsWritten a.path) {c : Char}
    (hc : c ∈ a.render) : IsVisible c := by
  rw [render_eq, List.mem_append] at hc
  rcases hc with hc | hc
  · exact isVisible_of_path (h.kept c hc).1
  · exact isVisible_of_mem_afterPath hc

/-- Neither a slash nor a backslash is the second character, unless two slashes begin the path. -/
theorem head?_tail_append {a : Address} (h : IsWritten a.path)
    (hsingle : a.path.tail.head? ≠ some '/') :
    ∀ c ∈ (a.path.tail ++ a.afterPath).head?, Reference.isSlash c = false := by
  intro c hc
  rw [Reference.isSlash, Bool.or_eq_false_iff, beq_eq_false_iff_ne, beq_eq_false_iff_ne]
  cases htail : a.path.tail with
  | nil =>
    rw [htail, List.nil_append] at hc
    have hends := a.endsPath_head?_afterPath
    rw [Option.mem_def.mp hc] at hends
    constructor <;> rintro rfl <;> exact absurd hends (by decide)
  | cons d s =>
    rw [htail, List.cons_append] at hc
    obtain rfl : d = c := Option.some.inj hc
    refine ⟨fun heq => hsingle ?_, (h.kept d (List.mem_of_mem_tail ?_)).2⟩
    · rw [htail, heq]
      rfl
    · rw [htail]
      exact List.mem_cons_self

/-- A rendered address begins with the slash of its path. -/
theorem render_eq_cons {a : Address} (h : IsWritten a.path) :
    a.render = '/' :: (a.path.tail ++ a.afterPath) := by
  rw [render_eq, h.eq_cons]
  rfl

/-- A rendered address has no tabs and no line breaks. -/
theorem isBreak_render {a : Address} (h : IsWritten a.path) :
    ∀ c ∈ a.render, Url.isBreak c = false := fun _ hc => (h.isVisible_of_mem_render hc).2

/-- A rendered address is a reference without scheme. -/
theorem join_eq {a : Address} (h : IsWritten a.path) (base : Url) :
    base.join a.render =
      match base.path with
      | .unstructured _ => none
      | .segmented segments =>
        if Url.isFile base.scheme then Reference.joinFile (some (base, segments)) a.render
        else Reference.joinRelative base segments a.render := by
  have htrim : Reference.trim a.render = a.render := by
    refine Text.trimBy_eq_self fun c hc => ?_
    have := (h.isVisible_of_mem_render hc).1
    simp only [decide_eq_false_iff_not]
    omega
  have hbreaks : Url.dropBreaks a.render = a.render :=
    Segments.dropBreaks_eq_self h.isBreak_render
  have hnoScheme : Reference.scheme? a.render = none := by
    rw [h.render_eq_cons]
    rfl
  rw [Url.join, htrim, hnoScheme]
  dsimp only
  rw [if_neg (by rw [h.render_eq_cons]; simp)]
  cases base.path with
  | unstructured _ => rfl
  | segmented segments =>
    dsimp only
    rw [hbreaks]

/-- A rendered address is read relative to a URL with segments that is no file. -/
theorem join_eq_joinRelative {a : Address} (h : IsWritten a.path) {base : Url}
    {segments : List Text} (hscheme : Url.isFile base.scheme = false)
    (hbase : base.path = .segmented segments) :
    base.join a.render =
      Reference.joinRelative base segments ('/' :: (a.path.tail ++ a.afterPath)) := by
  rw [h.join_eq, hbase]
  dsimp only
  rw [if_neg (by simp [hscheme]), h.render_eq_cons]

/-- A path that does not begin with two slashes is resolved. -/
theorem join_render {a : Address} (h : IsWritten a.path)
    (hsingle : a.path.tail.head? ≠ some '/') {base : Url} {segments : List Text}
    (hscheme : Url.isFile base.scheme = false) (hbase : base.path = .segmented segments) :
    base.join a.render =
      some { a.toUrl base.scheme with
        path := .segmented (Segments.resolve false [] (pieces a.path)) } := by
  rw [h.join_eq_joinRelative hscheme hbase,
    joinRelative_slash base segments (h.head?_tail_append hsingle),
    h.withSegments_eq base.scheme a.endsPath_head?_afterPath, Reference.withPath,
    queryAndFragment_afterPath]
  rfl

end IsWritten

/-- **A rendered address is resolved against any URL but a file in the same way.** -/
theorem join_render {a : Address} (h : IsCanonical a.path) {base : Url} {segments : List Text}
    (hscheme : Url.isFile base.scheme = false) (hbase : base.path = .segmented segments) :
    base.join a.render = some (a.toUrl base.scheme) := by
  have hplain : ∀ s ∈ pieces a.path, Segments.IsPlain s :=
    fun s hs => ⟨h.isKept s hs, h.noDots s hs⟩
  rw [h.toIsWritten.join_render h.single hscheme hbase, Segments.resolve_eq hplain]
  rfl

/-! ### Canonical paths -/

/-- A separator in front of each piece is one in front of all and the others between them. -/
theorem flatMap_cons_eq (c : Char) {pieces : List Text} (h : pieces ≠ []) :
    pieces.flatMap (c :: ·) = c :: [c].intercalate pieces := by
  induction pieces with
  | nil => exact absurd rfl h
  | cons s pieces ih =>
    cases pieces with
    | nil => simp
    | cons t pieces =>
      rw [List.flatMap_cons, ih (List.cons_ne_nil _ _),
        List.intercalate_cons_of_ne_nil (List.cons_ne_nil _ _)]
      simp

/-- The pieces of a canonical path make up the path again. -/
theorem toText_segmented {path : Text} (h : IsCanonical path) :
    (UrlPath.segmented (pieces path)).toText = path := by
  rw [UrlPath.toText, pieces, flatMap_cons_eq '/' (Text.splitBy_ne_nil _ _),
    Text.intercalate_splitBy, ← h.eq_cons]

/-- An address is what its URL holds. -/
theorem ofUrl_toUrl {a : Address} (h : IsCanonical a.path) (scheme : Text) :
    ofUrl (a.toUrl scheme) = a := by
  have hsearch : Dictionary.ofList (Form.parse (a.query?.getD [])) = a.search := by
    unfold query?
    split
    case isTrue hempty =>
      refine Dictionary.ext ?_
      rw [List.isEmpty_iff.mp hempty]
      rfl
    case isFalse =>
      rw [Option.getD_some, Form.parse_render, Dictionary.ofList_entries]
  have hhash : (Percent.decode? (a.fragment?.getD [])).getD (a.fragment?.getD []) = a.hash := by
    unfold fragment?
    split
    case isTrue hempty =>
      rw [List.isEmpty_iff.mp hempty]
      rfl
    case isFalse =>
      rw [Option.getD_some, Percent.decode?_encode (by decide), Option.getD_some]
  rw [ofUrl, toUrl]
  simp only [toText_segmented h, hsearch, hhash]

/-- **What is rendered is read back.**  The delimiters are those that rendering put in, and
resolving leaves the path as it is. -/
theorem read?_render {a : Address} (h : IsCanonical a.path) : read? a.render = some a := by
  rw [read?, join_render h rfl rfl, Option.map_some, ofUrl_toUrl h]

/-- **The reference of the URL that an address is rendered to is the rendered address.** -/
theorem pathAndAfter_toUrl {a : Address} (h : IsCanonical a.path) (scheme : Text) :
    (a.toUrl scheme).pathAndAfter = a.render := by
  rw [Url.pathAndAfter, render_eq, afterPath, ← List.append_assoc]
  simp only [toUrl, toText_segmented h]

end Address
end Routing
