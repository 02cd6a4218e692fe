/-
# Unstructured paths

The path of a URL is a list of segments, unless the URL brings a scheme like the one of `mailto:`
and no slash behind it.  The text that stands for the path then does not begin with a slash, and
no reference gives it one (`Url.isBare_join`).

The proofs follow the functions that read a reference, one lemma for each.  In most branches there
are segments, and nothing is to be shown; the text of an unstructured path is taken either from the
URL before or from behind a scheme where no slash follows.
-/

import Routing.Proofs.Url.Resolved

namespace Routing

/-- Unstructured text does not begin with a slash. -/
def UrlPath.IsBare : UrlPath → Prop
  | segmented _ => True
  | unstructured text => text.head? ≠ some '/'

/-- A path of segments is bare. -/
theorem UrlPath.isBare_of_segmented {path : UrlPath} (h : ∃ segments, path = .segmented segments) :
    path.IsBare := by
  obtain ⟨segments, rfl⟩ := h
  trivial

namespace Reference

/-- Behind an authority there are segments, in a URL of the given scheme. -/
theorem segmented_withAuthority {scheme s : Text} {url : Url}
    (h : withAuthority scheme s = some url) :
    url.scheme = scheme ∧ ∃ segments, url.path = .segmented segments := by
  obtain ⟨rest, -, rfl⟩ := Option.map_eq_some_iff.mp h
  split
  · split <;> exact ⟨rfl, _, rfl⟩
  · split
    · exact ⟨rfl, _, rfl⟩
    · split <;> exact ⟨rfl, _, rfl⟩

variable {base url : Url} {s : Text}

/-- A URL with an authority has a bare path. -/
theorem isBare_withAuthority {scheme : Text} (h : withAuthority scheme s = some url) :
    url.path.IsBare :=
  UrlPath.isBare_of_segmented (segmented_withAuthority h).2

/-- A reference within a document keeps a bare path. -/
theorem isBare_sameDocument (hbase : base.path.IsBare) (s : Text) :
    (sameDocument base s).path.IsBare := by
  rwa [path_sameDocument]

/-- A reference without scheme leads to a bare path. -/
theorem isBare_joinRelative {segments : List Text} (hbase : base.path.IsBare)
    (h : joinRelative base segments s = some url) : url.path.IsBare := by
  unfold joinRelative at h
  split at h
  case h_1 => exact Option.some.inj h ▸ isBare_sameDocument hbase _
  case h_2 =>
    split at h
    · exact Option.some.inj h ▸ isBare_sameDocument hbase _
    · split at h
      · split at h
        · split at h
          · exact isBare_withAuthority h
          · split at h
            · exact isBare_withAuthority h
            · exact Option.some.inj h ▸ trivial
        · exact Option.some.inj h ▸ trivial
      · exact Option.some.inj h ▸ trivial

/-- A reference with a scheme that is not special leads to a bare path. -/
theorem isBare_joinOther {scheme : Text} (hbase : base.path.IsBare)
    (h : joinOther base scheme s = some url) : url.path.IsBare := by
  unfold joinOther at h
  split at h
  · dsimp only at h
    split at h
    · split at h
      · exact isBare_joinRelative hbase h
      · exact isBare_withAuthority h
    · exact isBare_withAuthority h
  · split at h
    case h_1 => exact isBare_withAuthority h
    case h_2 => exact Option.some.inj h ▸ trivial
    case h_3 _ hslash =>
      exact Option.some.inj h ▸ head?_encode_takeWhile_ne_slash _ hslash

/-- A file on a host has a bare path. -/
theorem isBare_fileHost (h : fileHost s = some url) : url.path.IsBare := by
  unfold fileHost at h
  dsimp only at h
  split at h
  · exact Option.some.inj h ▸ trivial
  · split at h
    · cases h
    · split at h
      · exact Option.some.inj h ▸ trivial
      · split at h <;> exact Option.some.inj h ▸ trivial

/-- A file on a drive has a bare path. -/
theorem isBare_joinDrive (before : Option (Url × List Text)) (s : Text) :
    (joinDrive before s).path.IsBare := by
  unfold joinDrive
  split <;> trivial

/-- A reference to a file has segments, unless it keeps the path of the URL before. -/
theorem isBare_joinFile {before : Option (Url × List Text)}
    (hbefore : ∀ base segments, before = some (base, segments) → base.path.IsBare)
    (h : joinFile before s = some url) : url.path.IsBare := by
  -- Without an authority, only a reference to the same document takes the path of the URL before as
  -- it is.
  have hrelative (s : Text) : (joinFile.relative before s).path.IsBare := by
    unfold joinFile.relative
    split
    · trivial
    · split
      · exact isBare_sameDocument (hbefore _ _ rfl) _
      · split
        · trivial
        · unfold joinDirectory
          dsimp only
          split
          · trivial
          · split <;> trivial
  unfold joinFile at h
  split at h
  case h_1 => exact Option.some.inj h ▸ hrelative _
  case h_2 =>
    split at h
    · split at h
      · exact Option.some.inj h ▸ isBare_joinDrive _ _
      · split at h
        · exact isBare_fileHost h
        · exact Option.some.inj h ▸ isBare_joinDrive _ _
    · exact Option.some.inj h ▸ hrelative _

end Reference

/-- **No reference leads to unstructured text with a slash at the front.**  Where such a text would
begin with a slash, it is taken for segments. -/
theorem Url.isBare_join {base url : Url} {s : Text} (hbase : base.path.IsBare)
    (h : base.join s = some url) : url.path.IsBare := by
  unfold Url.join at h
  dsimp only at h
  split at h
  case h_1 scheme behind hread =>
    unfold Reference.joinScheme at h
    split at h
    · exact Reference.isBare_joinOther hbase h
    · split at h
      · refine Reference.isBare_joinFile (fun file segments hfile => ?_) h
        split at hfile
        · obtain ⟨rfl, -⟩ := Prod.mk.inj (Option.some.inj hfile)
          exact hbase
        · cases hfile
      · exact Reference.isBare_joinFile (by simp) h
  case h_2 =>
    split at h
    · exact Option.some.inj h ▸ Reference.isBare_sameDocument hbase _
    · split at h
      · cases h
      · split at h
        · refine Reference.isBare_joinFile (fun file segments hfile => ?_) h
          obtain ⟨rfl, -⟩ := Prod.mk.inj (Option.some.inj hfile)
          exact hbase
        · exact Reference.isBare_joinRelative hbase h

/-- What is shown of a URL with unstructured text does not begin with a slash. -/
theorem Url.head?_pathAndAfter_ne_slash {url : Url} {text : Text}
    (hpath : url.path = .unstructured text) (hbare : url.path.IsBare) :
    url.pathAndAfter.head? ≠ some '/' := by
  rw [hpath] at hbare
  rw [pathAndAfter, hpath]
  cases text with
  | cons c text => exact hbare
  | nil => cases url.query <;> cases url.fragment <;> simp [UrlPath.toText]

end Routing
