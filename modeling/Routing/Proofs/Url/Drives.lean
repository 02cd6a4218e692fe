/-
# Canonical URLs behind a file

A canonical URL keeps its path behind any URL with segments that is no file
(`Address.join_render`).  Behind a file the drive letter counts: a path without a drive of its own
gets the one of the file, and `C|` is written as `C:` (`Address.join_render_file`).  Behind
unstructured text nothing is resolved.  So whether a URL is read as it is written depends on the
URL before it and on the first segment of the path alone (`Url.keeps`,
`Address.join_render_cases`).

The path of a file is read with the drive of the file in front of it, if there is one, so the two
are told apart by the first segment alone (`Segments.driveFrom`, `Segments.keepsDrive`); all other
segments are read as behind any URL.  Whether the reference itself begins with a drive is settled
in `Reference.startsWithDrive_append`, before its query and its fragment are known.
-/

import Routing.Proofs.Url.Written

namespace Routing
namespace Segments

/-! ### Drives among segments -/

/-- A first segment as it stands in the URL of a file. -/
def normalize (s : Text) : Text := if isDriveLetter s then s.take 1 ++ [':'] else s

/-- The drive that a path with the first segment `s` gets from the path before. -/
def driveFrom (base : List Text) (s : Text) : Option Text :=
  if isDriveLetter s then none else base.head?.filter isNormalDriveLetter

/-- The segments of an absolute path in the URL of a file, by the path before. -/
def onDrive (base : List Text) : List Text → List Text
  | [] => []
  | s :: pieces => (driveFrom base s).toList ++ normalize s :: pieces

/-- A path with the first segment `s` is not changed by the drive of the path before, and has no
drive letter that is written differently. -/
def keepsDrive (base : List Text) (s : Text) : Bool :=
  if isDriveLetter s then isNormalDriveLetter s else !base.head?.any isNormalDriveLetter

/-- An empty segment at the front stays if it is the only one. -/
theorem dropEmptyFront_cons {s : Text} {segments : List Text} (h : s ≠ [] ∨ segments = []) :
    dropEmptyFront (s :: segments) = s :: segments := by
  unfold dropEmptyFront
  cases s with
  | cons c s => rfl
  | nil =>
    obtain rfl := h.resolve_left (by simp)
    rfl

/-- Normalizing a segment does not empty it. -/
theorem normalize_ne_nil {s : Text} (h : s ≠ []) : normalize s ≠ [] := by
  unfold normalize
  split
  · simp
  · exact h

/-- The first segment is normalized where no drive stands before it. -/
theorem resolve_true_nil {s : Text} {pieces : List Text} (h : ∀ t ∈ s :: pieces, IsPlain t) :
    resolve true [] (s :: pieces) = normalize s :: pieces := by
  obtain ⟨⟨hkept, hdot⟩, hpieces⟩ := List.forall_mem_cons.mp h
  obtain ⟨hdouble, hsingle⟩ := isDot_eq_false_iff.mp hdot
  have hpush : push true [] s = [normalize s] := by
    have hbroken := brokenDrive?_eq_none fun c hc => isBreak_eq_false_of_path (hkept c hc)
    rw [push, if_pos (by rfl), hbroken, encode_eq_self hkept, normalize]
    dsimp only
    split <;> rfl
  cases pieces with
  | nil => simp [resolve, hpush, encode_eq_self hkept, hdouble, hsingle]
  | cons t pieces =>
    rw [resolve_cons, encode_eq_self hkept, hdouble, hsingle, if_neg (by decide),
      if_neg (by decide), hpush, resolve_append hpieces (by simp)]
    rfl

/-- Behind no segments there is no drive. -/
theorem driveFrom_nil (s : Text) : driveFrom [] s = none := by
  unfold driveFrom
  split <;> rfl

/-- The drive of a path is its first segment, if that is a drive letter as it stands in URLs and the
new path brings none of its own. -/
theorem driveFrom_cons (drive : Text) (base : List Text) (s : Text) :
    driveFrom (drive :: base) s =
      if !isDriveLetter s && isNormalDriveLetter drive then some drive else none := by
  unfold driveFrom
  cases isDriveLetter s <;> cases hdrive : isNormalDriveLetter drive <;>
    simp [Option.filter, hdrive]

/-- What is known of a drive that is taken over. -/
theorem driveFrom_eq_some {base : List Text} {s drive : Text}
    (h : driveFrom base s = some drive) :
    isDriveLetter s = false ∧ base.head? = some drive ∧ isNormalDriveLetter drive := by
  unfold driveFrom at h
  split at h
  case isTrue => cases h
  case isFalse hs => exact ⟨Bool.eq_false_iff.mpr hs, Option.filter_eq_some_iff.mp h⟩

/-- **The segments of a file are read behind the drive.** -/
theorem readFile_driveFrom {path s : Text} {rest : List Text} (h : Address.IsCanonical path)
    (hpieces : Address.pieces path = s :: rest) (base : List Text) :
    readFile (driveFrom base s).toList [] path.tail = onDrive base (s :: rest) := by
  have hplain : ∀ t ∈ s :: rest, IsPlain t := fun t ht =>
    ⟨h.isKept t (hpieces ▸ ht), h.noDots t (hpieces ▸ ht)⟩
  rw [readFile, h.splitBy_isSeparator, hpieces, onDrive, if_pos (by rfl)]
  cases hdrive : driveFrom base s with
  | none =>
    -- An empty first segment stands alone, for no second slash follows the first one.
    refine (congrArg _ (resolve_true_nil hplain)).trans (dropEmptyFront_cons ?_)
    cases s with
    | cons c s => exact .inl (normalize_ne_nil (by simp))
    | nil =>
      refine .inr ?_
      cases rest with
      | nil => rfl
      | cons t rest =>
        have hpath := Text.intercalate_splitBy '/' path.tail
        rw [← Address.pieces, hpieces] at hpath
        refine absurd ?_ h.single
        rw [← hpath]
        simp
  | some drive =>
    obtain ⟨hs, -, hnormal⟩ := driveFrom_eq_some hdrive
    have hne : drive ≠ [] := by
      rintro rfl
      cases hnormal
    rw [normalize, hs, if_neg (by decide), resolve_append hplain (by simp)]
    exact dropEmptyFront_cons (.inl hne)

/-- Segments have the same text on a drive if the drive keeps them. -/
theorem toText_onDrive_iff (base : List Text) (s : Text) (rest : List Text) :
    (UrlPath.segmented (onDrive base (s :: rest))).toText =
        (UrlPath.segmented (s :: rest)).toText ↔ keepsDrive base s := by
  rw [UrlPath.toText, UrlPath.toText, onDrive, keepsDrive, driveFrom, normalize]
  by_cases hs : isDriveLetter s
  · rw [if_pos hs, if_pos hs, if_pos hs, Option.toList_none, List.nil_append, List.flatMap_cons,
      List.flatMap_cons, List.append_left_inj, List.cons.injEq, eq_self, true_and]
    obtain ⟨letter, mark, rfl⟩ : ∃ letter mark, s = [letter, mark] := by
      unfold isDriveLetter at hs
      split at hs
      · exact ⟨_, _, rfl⟩
      · cases hs
    obtain ⟨hletter, -⟩ := Bool.and_eq_true_iff.mp hs
    show [letter, ':'] = [letter, mark] ↔ (letter.isAlpha && mark == ':') = true
    rw [hletter, Bool.true_and, beq_iff_eq, List.cons_inj_right, List.singleton_inj]
    exact eq_comm
  · rw [if_neg hs, if_neg hs, if_neg hs, List.flatMap_append, List.append_left_eq_self]
    cases base with
    | nil => simp
    | cons drive base => cases hdrive : isNormalDriveLetter drive <;> simp [hdrive]

/-- A text that begins with a separator is no drive letter. -/
theorem isDriveLetter_eq_false {c : Char} (h : Reference.isSlash c || Reference.endsPath c)
    (s : Text) : isDriveLetter (c :: s) = false := by
  simp only [Reference.isSlash, Reference.endsPath, Bool.or_eq_true, beq_iff_eq] at h
  cases s with
  | nil => rfl
  | cons d s =>
    cases s with
    | nil => rcases h with (rfl | rfl) | (rfl | rfl) <;> rfl
    | cons e s => rfl

end Segments

/-! ### References to files -/

namespace Reference

/-- Whether a text begins with a drive is a matter of what stands before the first separator. -/
theorem startsWithDrive_append {s w : Text}
    (hbreaks : ∀ c ∈ s ++ w, Url.isBreak c = false)
    (hs : ∀ c ∈ s, (isSlash c || endsPath c) = false)
    (hw : w.head?.all fun c => isSlash c || endsPath c) :
    startsWithDrive (s ++ w) = Segments.isDriveLetter s := by
  rw [startsWithDrive, Segments.dropBreaks_eq_self hbreaks]
  -- A drive takes two characters, so what counts is how many the segment has.
  match s, hs with
  | [], _ =>
    cases w with
    | nil => rfl
    | cons c w =>
      rw [List.nil_append, List.take_succ_cons, Segments.isDriveLetter_eq_false (by simpa using hw)]
      rfl
  | [x], hs =>
    cases w with
    | nil => rfl
    | cons c w =>
      have hc : (isSlash c || endsPath c) = true := by simpa using hw
      have hne : Segments.isDriveLetter [x, c] = false := by
        simp only [isSlash, endsPath, Bool.or_eq_true, beq_iff_eq] at hc
        rcases hc with (rfl | rfl) | (rfl | rfl) <;> simp [Segments.isDriveLetter]
      show (Segments.isDriveLetter [x, c] && _) = Segments.isDriveLetter [x]
      rw [hne]
      rfl
  | [x, y], _ =>
    show (Segments.isDriveLetter [x, y] && w.head?.all _) = Segments.isDriveLetter [x, y]
    rw [hw, Bool.and_true]
  | x :: y :: z :: s, hs =>
    have hz := hs z (by simp)
    show (Segments.isDriveLetter [x, y] && (some z).all _) = Segments.isDriveLetter (x :: y :: z :: s)
    rw [Option.all_some, hz, Bool.and_false]
    rfl

end Reference

namespace Address

variable {a : Address} {base : Url} {segments : List Text}

/-- The first segment of a path ends where the path or the segment does. -/
theorem exists_tail_eq {path s : Text} {rest : List Text} (hpieces : pieces path = s :: rest) :
    ∃ w, path.tail = s ++ w ∧ w.head?.all (· == '/') := by
  have hpath := Text.intercalate_splitBy '/' path.tail
  rw [← pieces, hpieces] at hpath
  cases rest with
  | nil => exact ⟨[], by simpa using hpath.symm, rfl⟩
  | cons t rest =>
    rw [List.intercalate_cons_of_ne_nil (List.cons_ne_nil _ _)] at hpath
    exact ⟨_, by rw [← hpath, List.append_assoc], rfl⟩

/-- An absolute path behind a file begins with a drive if its first segment is one. -/
theorem startsWithDrive_render (h : IsCanonical a.path) {s : Text} {rest : List Text}
    (hpieces : pieces a.path = s :: rest) :
    Reference.startsWithDrive (a.path.tail ++ a.afterPath) = Segments.isDriveLetter s := by
  have hbreaks : ∀ c ∈ a.path.tail ++ a.afterPath, Url.isBreak c = false := fun c hc =>
    h.isBreak_render c (h.render_eq_cons ▸ List.mem_cons_of_mem _ hc)
  obtain ⟨w, htail, hw⟩ := exists_tail_eq hpieces
  have hmem : s ∈ pieces a.path := hpieces ▸ List.mem_cons_self
  rw [htail, List.append_assoc] at hbreaks ⊢
  refine Reference.startsWithDrive_append hbreaks (fun c hc => ?_) ?_
  · have hpath : c ∈ a.path := mem_of_mem_pieces hmem c hc
    have hslash : c ≠ '/' := fun heq => not_mem_of_mem_pieces hmem (heq ▸ hc)
    rw [h.endsPath_eq_false c hpath, Reference.isSlash, Bool.or_false, Bool.or_eq_false_iff]
    exact ⟨beq_eq_false_iff_ne.mpr hslash, beq_eq_false_iff_ne.mpr (h.kept c hpath).2⟩
  · cases w with
    | nil =>
      have hends := a.endsPath_head?_afterPath
      cases hafter : a.afterPath.head? with
      | none => simp [hafter]
      | some c => simpa [hafter] using .inr (by simpa [hafter] using hends)
    | cons c w =>
      obtain rfl : c = '/' := by simpa using hw
      rfl

/-- A canonical URL is an absolute path behind a file. -/
theorem joinFile_render (h : IsCanonical a.path) :
    Reference.joinFile (some (base, segments)) a.render =
      some (Reference.joinDrive (some (base, segments)) (a.path.tail ++ a.afterPath)) := by
  have hbreaks : ∀ c ∈ a.path.tail ++ a.afterPath, Url.isBreak c = false := fun c hc =>
    h.isBreak_render c (h.render_eq_cons ▸ List.mem_cons_of_mem _ hc)
  have hslash := h.head?_tail_append h.single
  rw [h.render_eq_cons]
  generalize a.path.tail ++ a.afterPath = behind at hbreaks hslash
  cases behind with
  | nil => rfl
  | cons d more =>
    have hdrop : (d :: more).dropWhile Url.isBreak = d :: more := by
      rw [List.dropWhile_cons, hbreaks d List.mem_cons_self]
      rfl
    have hfront : ('/' :: d :: more).dropWhile Url.isBreak = '/' :: d :: more := rfl
    rw [Reference.joinFile, hfront]
    dsimp only
    rw [if_pos (by decide), hdrop]
    dsimp only
    rw [if_neg (by simp [hslash d rfl])]

/-- **Behind a file, a canonical URL gets the drive of the file.** -/
theorem join_render_file (h : IsCanonical a.path) (hscheme : Url.isFile base.scheme)
    (hbase : base.path = .segmented segments) :
    base.join a.render = some { a.toUrl base.scheme with
      path := .segmented (Segments.onDrive segments (pieces a.path)) } := by
  have hbreaks : ∀ c ∈ a.afterPath, Url.isBreak c = false := fun c hc =>
    h.isBreak_render c (a.render_eq ▸ List.mem_append_right _ hc)
  cases hpieces : pieces a.path with
  | nil => exact absurd hpieces (Text.splitBy_ne_nil _ _)
  | cons s rest =>
    have hdrive : Reference.joinDrive (some (base, segments)) (a.path.tail ++ a.afterPath) =
        Reference.ofFile (Segments.driveFrom segments s).toList []
          (a.path.tail ++ a.afterPath) := by
      cases segments with
      | nil =>
        rw [Segments.driveFrom_nil]
        rfl
      | cons first others =>
        rw [Reference.joinDrive, startsWithDrive_render h hpieces, Segments.driveFrom_cons]
        split <;> rfl
    rw [h.join_eq, hbase]
    dsimp only
    rw [if_pos hscheme, joinFile_render h, hdrive, Reference.ofFile,
      h.takeWhile_append a.endsPath_head?_afterPath, List.drop_left,
      Segments.readFile_driveFrom h hpieces, Segments.dropBreaks_eq_self hbreaks,
      Reference.withPath, queryAndFragment_afterPath, ← beq_iff_eq.mp hscheme]
    rfl

/-- What a URL to a path is from its path on, if only the path differs. -/
theorem pathAndAfter_eq (a : Address) (scheme : Text) (path : UrlPath) :
    Url.pathAndAfter { a.toUrl scheme with path } = path.toText ++ a.afterPath := by
  rw [Url.pathAndAfter, afterPath, List.append_assoc]
  rfl

end Address

/-! ### Which paths are kept -/

/-- A canonical URL with the path is read as it is written behind the URL.  Behind a file, that
takes a drive letter in front that is written as it stands in URLs, or a file without drive. -/
def Url.keeps (base : Url) (path : Text) : Bool :=
  match base.path with
  | .unstructured _ => false
  | .segmented segments =>
    !isFile base.scheme || Segments.keepsDrive segments ((Address.pieces path).headD [])

/-- **A canonical URL is not resolved behind unstructured text.  Behind any other URL it is, and
it is read as it is written if that URL keeps its path.** -/
theorem Address.join_render_cases {a : Address} (h : IsCanonical a.path) (base : Url) :
    (∃ text, base.path = .unstructured text ∧ base.join a.render = none) ∨
      ∃ segments url, base.path = .segmented segments ∧ base.join a.render = some url ∧
        (url.pathAndAfter = a.render ↔ base.keeps a.path) := by
  cases hpath : base.path with
  | unstructured text =>
    refine .inl ⟨text, rfl, ?_⟩
    rw [h.join_eq, hpath]
  | segmented segments =>
    refine .inr ⟨segments, ?_⟩
    cases hscheme : Url.isFile base.scheme with
    | false =>
      refine ⟨_, rfl, join_render h hscheme hpath, iff_of_true (pathAndAfter_toUrl h _) ?_⟩
      rw [Url.keeps, hpath]
      simp [hscheme]
    | true =>
      refine ⟨_, rfl, join_render_file h hscheme hpath, ?_⟩
      cases hpieces : pieces a.path with
      | nil => exact absurd hpieces (Text.splitBy_ne_nil _ _)
      | cons s rest =>
        have hkeeps : base.keeps a.path = Segments.keepsDrive segments s := by
          rw [Url.keeps, hpath, hpieces, hscheme]
          rfl
        rw [hkeeps, ← Segments.toText_onDrive_iff segments s rest, ← hpieces, h.toText_pieces,
          pathAndAfter_eq, render_eq, List.append_cancel_right_eq]

end Routing
