/-
# What a history records

A canonical URL is recorded as it is written exactly if the current entry keeps its path
(`Url.keeps`): an entry with unstructured text for its path takes no URL at all, and the drive of
a file may change the path (`History.isPushed_push_iff`, `History.isReplaced_replace_iff`).

What holds of the URLs that a reference leads to holds of all entries, whatever is done to a
history (`History.isInvariant_entries`).

Recording a URL resolves it against the current entry, and what is shown of the result is compared
with the URL (`Address.join_render_cases`).  An invariant of histories is stated by what keeps it
(`History.IsInvariant`), so a router needs to know no more of the entries than that.
-/

import Routing.Proofs.History
import Routing.Proofs.Url.Drives
import Routing.Proofs.Url.Unstructured

namespace Routing
namespace History

variable {h h' : History} {url : Text}

/-- The URL is recorded as the last entry, behind the one that was current. -/
structure IsPushed (h h' : History) (url : Text) : Prop where
  /-- The URL is the current one. -/
  current : h'.currentPath = url
  /-- One entry stands behind those up to the one that was current. -/
  length : h'.length = h.index + 2
  /-- It is the last one. -/
  last : h'.canGoForward = false

/-- The URL is recorded in place of the current entry. -/
structure IsReplaced (h h' : History) (url : Text) : Prop where
  /-- The URL is the current one. -/
  current : h'.currentPath = url
  /-- There are as many entries as before. -/
  length : h'.length = h.length
  /-- The current entry is at the same place. -/
  index : h'.index = h.index

/-- **A canonical URL is pushed as it is written exactly if the current entry keeps its path.**
Behind an entry without segments it leads nowhere, and behind a file it may get the drive of that
file. -/
theorem isPushed_push_iff (h : History) {a : Address} (ha : Address.IsCanonical a.path) :
    h.IsPushed (h.push a.render) a.render ↔ h.current.keeps a.path := by
  have hresolve := resolve?_eq_join (h := h) ⟨a, ha, rfl⟩
  rcases Address.join_render_cases ha h.current with ⟨text, hpath, hnone⟩ |
    ⟨segments, entry, -, hentry, hkeeps⟩
  · rw [hnone] at hresolve
    rw [push_of_none hresolve]
    refine iff_of_false (fun hpushed => ?_) (by simp [Url.keeps, hpath])
    -- A history that stays as it was has no entry behind the current one.
    have hlength : h.entries.length = h.index + 2 := hpushed.length
    have hlast := hpushed.last
    rw [canGoForward, decide_eq_false_iff_not] at hlast
    omega
  · rw [hentry] at hresolve
    rw [← hkeeps]
    refine ⟨fun hpushed => ?_, fun heq => ?_⟩
    · have hcurrent := hpushed.current
      rwa [currentPath, current_push hresolve] at hcurrent
    · obtain ⟨hentries, hindex, -⟩ := push_of_some hresolve
      have hlength : (h.push a.render).length = h.index + 2 := by
        rw [length, hentries, List.length_append, length_take_index]
        rfl
      refine ⟨by rwa [currentPath, current_push hresolve], hlength, ?_⟩
      rw [canGoForward, hindex, ← length, hlength]
      simp

/-- **A canonical URL replaces an entry as it is written exactly if the entry keeps its path.**
That the entry is bare is asked for since one that is not could show the URL already, although
nothing was replaced. -/
theorem isReplaced_replace_iff (hbare : h.current.path.IsBare) {a : Address}
    (ha : Address.IsCanonical a.path) :
    h.IsReplaced (h.replace a.render) a.render ↔ h.current.keeps a.path := by
  have hresolve := resolve?_eq_join (h := h) ⟨a, ha, rfl⟩
  rcases Address.join_render_cases ha h.current with ⟨text, hpath, hnone⟩ |
    ⟨segments, entry, -, hentry, hkeeps⟩
  · rw [hnone] at hresolve
    rw [replace_of_none hresolve]
    refine iff_of_false (fun hreplaced => ?_) (by simp [Url.keeps, hpath])
    -- The text of the entry does not begin with a slash, as the URL does.
    refine Url.head?_pathAndAfter_ne_slash hpath hbare ?_
    rw [← currentPath, hreplaced.current, ha.render_eq_cons]
    rfl
  · rw [hentry] at hresolve
    rw [← hkeeps]
    refine ⟨fun hreplaced => ?_, fun heq => ?_⟩
    · have hcurrent := hreplaced.current
      rwa [currentPath, current_replace hresolve] at hcurrent
    · obtain ⟨hentries, hindex, -⟩ := replace_of_some hresolve
      refine ⟨by rwa [currentPath, current_replace hresolve], ?_, hindex⟩
      rw [length, hentries, List.length_set, length]

/-- What is kept by whatever is done to a history with URLs that `Q` holds for. -/
structure IsInvariant (P : History → Prop) (Q : Text → Prop) : Prop where
  /-- Pushing a URL keeps it. -/
  push : ∀ h url, Q url → P h → P (h.push url)
  /-- Replacing the current entry keeps it. -/
  replace : ∀ h url, Q url → P h → P (h.replace url)
  /-- A move keeps it. -/
  go : ∀ h delta, P h → P (h.go delta)
  /-- It does not depend on the events. -/
  events : ∀ (h : History) events, P h → P { h with events }

/-- **What holds of the URLs that references lead to holds of all entries.**  So an invariant of
entries is a matter of joining URLs, and histories need not be looked at again. -/
theorem isInvariant_entries {E : Url → Prop} {Q : Text → Prop}
    (hjoin : ∀ base url s, Q s → E base → base.join s = some url → E url) :
    IsInvariant (fun h => ∀ entry ∈ h.entries, E entry) Q := by
  -- Only recording brings a new entry, and it is joined to the current one.
  have hresolve {h : History} {s : Text} {entry : Url} (hs : Q s)
      (hentries : ∀ entry ∈ h.entries, E entry) (hurl : h.resolve? s = some entry) : E entry := by
    unfold resolve? at hurl
    split at hurl
    case h_1 => cases hurl
    case h_2 => exact hjoin _ _ _ hs (hentries _ h.current_mem) hurl
  refine ⟨fun h url hurl hentries entry hentry => ?_, fun h url hurl hentries entry hentry => ?_,
    fun h delta hentries => ?_, fun h events hentries => hentries⟩
  · cases hfound : h.resolve? url with
    | none =>
      rw [push_of_none hfound] at hentry
      exact hentries entry hentry
    | some found =>
      rcases mem_of_mem_push hfound hentry with hentry | rfl
      · exact hentries entry hentry
      · exact hresolve hurl hentries hfound
  · cases hfound : h.resolve? url with
    | none =>
      rw [replace_of_none hfound] at hentry
      exact hentries entry hentry
    | some found =>
      rcases mem_of_mem_replace hfound hentry with hentry | rfl
      · exact hentries entry hentry
      · exact hresolve hurl hentries hfound
  · rcases h.go_cases delta with hgo | ⟨hgo, -⟩
    · rwa [hgo]
    · rwa [hgo]

/-- No reference leads to unstructured text with a slash at the front. -/
theorem isInvariant_isBare :
    IsInvariant (fun h => ∀ entry ∈ h.entries, entry.path.IsBare) fun _ => True :=
  isInvariant_entries fun _ _ _ _ => Url.isBare_join

/-- URLs that begin with a slash lead from segments to segments. -/
theorem isInvariant_isMemory :
    IsInvariant (fun h => ∀ entry ∈ h.entries, entry.IsMemory) fun s => s.head? = some '/' :=
  isInvariant_entries fun _ _ _ hs hbase => hbase.join hs

/-- The first entry has a bare path, whatever the start is. -/
theorem isBare_new (start : Text) : ∀ entry ∈ (new start).entries, entry.path.IsBare := by
  intro entry hentry
  obtain rfl := List.mem_singleton.mp hentry
  have horigin : origin.path.IsBare := trivial
  cases hjoin : origin.join start with
  | none => exact horigin
  | some url => exact Url.isBare_join horigin hjoin

end History

/-- An entry of the scheme of histories keeps every path. -/
theorem Url.IsMemory.keeps {base : Url} (h : base.IsMemory) (path : Text) : base.keeps path := by
  obtain ⟨segments, hpath⟩ := h.segmented
  rw [Url.keeps, hpath, h.isFile_eq_false]
  rfl

end Routing
