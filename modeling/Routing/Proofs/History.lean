/-
# Entries of a history

The entries of a history are URLs of one scheme with segments for a path (`Url.IsMemory`).  A
canonical URL is recorded as it is written: it becomes the current one, and nothing is added to
the queue (`History.records_push`, `History.records_replace`).  A move queues the URL that it
leads to, or does nothing (`History.go_cases`).

A move never goes beyond the entries, and the queue is written by moves alone.  So recording and
moving can be told apart by what they do to the two fields: `push` and `replace` change the entries
(`push_of_some`, `replace_of_some`), `go` changes the place and the queue (`go_cases`).
-/

import Routing.History
import Routing.Proofs.RouteTable
import Routing.Proofs.Url.Unstructured

namespace Routing

/-- A URL of the scheme of histories, whose path is a list of segments. -/
structure Url.IsMemory (url : Url) : Prop where
  /-- The scheme is the one of the origin. -/
  scheme : url.scheme = History.origin.scheme
  /-- The path is a list of segments. -/
  segmented : ∃ segments, url.path = .segmented segments

namespace Reference

/-- A reference that begins with a slash leads to segments of the same scheme. -/
theorem segmented_joinRelative {base url : Url} {segments : List Text} {s : Text}
    (h : joinRelative base segments ('/' :: s) = some url) :
    url.scheme = base.scheme ∧ ∃ segments, url.path = .segmented segments := by
  unfold joinRelative at h
  dsimp only at h
  rw [if_neg (by decide), if_pos (by decide)] at h
  split at h
  · split at h
    · exact segmented_withAuthority h
    · split at h
      · exact segmented_withAuthority h
      · exact Option.some.inj h ▸ ⟨rfl, _, rfl⟩
  · exact Option.some.inj h ▸ ⟨rfl, _, rfl⟩

end Reference

namespace Url

/-- An entry is no file, so no drive letter counts in it. -/
theorem IsMemory.isFile_eq_false {url : Url} (h : url.IsMemory) : isFile url.scheme = false := by
  rw [h.scheme]
  decide

/-- The origin is a possible entry. -/
theorem isMemory_origin : History.origin.IsMemory := ⟨rfl, _, rfl⟩

/-- A reference that begins with a slash leads from entry to entry. -/
theorem IsMemory.join {base url : Url} (h : base.IsMemory) {s : Text} (hs : s.head? = some '/')
    (hurl : base.join s = some url) : url.IsMemory := by
  obtain ⟨segments, hpath⟩ := h.segmented
  obtain ⟨t, ht⟩ := exists_join_eq h.isFile_eq_false hpath hs
  obtain ⟨hscheme, hsegments⟩ := Reference.segmented_joinRelative (ht ▸ hurl)
  exact ⟨hscheme.trans h.scheme, hsegments⟩

/-- A canonical URL leads from an entry to the entry that it is written on. -/
theorem IsMemory.exists_join {base : Url} (h : base.IsMemory) {s : Text}
    (hs : Address.IsCanonicalUrl s) :
    ∃ url, base.join s = some url ∧ url.IsMemory ∧ url.pathAndAfter = s := by
  obtain ⟨address, hcanonical, rfl⟩ := hs
  obtain ⟨segments, hpath⟩ := h.segmented
  exact ⟨_, Address.join_render hcanonical h.isFile_eq_false hpath, ⟨h.scheme, _, rfl⟩,
    Address.pathAndAfter_toUrl hcanonical _⟩

end Url

namespace History

variable {h : History}

/-- The current entry is one of the entries. -/
theorem current_mem (h : History) : h.current ∈ h.entries := List.get_mem _ _

/-- The first entry is one of the scheme of histories. -/
theorem isMemory_new {start : Text} (hstart : start.head? = some '/') :
    ∀ entry ∈ (new start).entries, entry.IsMemory := by
  intro entry hentry
  obtain rfl := List.mem_singleton.mp hentry
  cases hjoin : origin.join start with
  | none => exact Url.isMemory_origin
  | some url => exact Url.isMemory_origin.join hstart hjoin

/-- A canonical URL does not lead to another host. -/
theorem resolve?_eq_join {s : Text} (hs : Address.IsCanonicalUrl s) :
    h.resolve? s = h.current.join s := by
  unfold resolve?
  split
  case h_1 t =>
    obtain ⟨address, hcanonical, hrender⟩ := hs
    rw [Address.render_eq, hcanonical.eq_cons, List.cons_append] at hrender
    have htail := (List.cons.inj hrender).2
    have := hcanonical.head?_tail_append hcanonical.single '/' (by rw [htail]; rfl)
    exact absurd this (by decide)
  case h_2 => rfl

/-- What recording a URL does to a history. -/
structure Records (h h' : History) (url : Text) : Prop where
  /-- The URL is the current one. -/
  current : h'.currentPath = url
  /-- Every entry was there before, or is the one of the URL. -/
  entries : ∀ entry ∈ h'.entries, entry ∈ h.entries ∨ entry.IsMemory ∧ entry.pathAndAfter = url
  /-- The queue stays as it was. -/
  events : h'.events = h.events

/-- The current entry is the one at the place of the history. -/
theorem current_eq (entry : Url) (hentry : h.entries[h.index]? = some entry) :
    h.current = entry := (List.getElem?_eq_some_iff.mp hentry).2

/-- A URL that leads nowhere is not recorded. -/
theorem push_of_none {url : Text} (hurl : h.resolve? url = none) : h.push url = h := by
  rw [push, hurl]

/-- A URL that leads nowhere replaces nothing. -/
theorem replace_of_none {url : Text} (hurl : h.resolve? url = none) : h.replace url = h := by
  rw [replace, hurl]

/-- A pushed URL becomes the last entry, right behind the one that was current; what was behind that
one is gone. -/
theorem push_of_some {url : Text} {entry : Url} (hurl : h.resolve? url = some entry) :
    (h.push url).entries = h.entries.take (h.index + 1) ++ [entry] ∧
      (h.push url).index = h.index + 1 ∧ (h.push url).events = h.events := by
  rw [push, hurl]
  exact ⟨rfl, rfl, rfl⟩

/-- A URL that replaces the current entry takes its place among the others. -/
theorem replace_of_some {url : Text} {entry : Url} (hurl : h.resolve? url = some entry) :
    (h.replace url).entries = h.entries.set h.index entry ∧
      (h.replace url).index = h.index ∧ (h.replace url).events = h.events := by
  rw [replace, hurl]
  exact ⟨rfl, rfl, rfl⟩

/-- There are as many entries up to the current one as its place says. -/
theorem length_take_index (h : History) : (h.entries.take (h.index + 1)).length = h.index + 1 := by
  rw [List.length_take]
  exact Nat.min_eq_left h.index_lt

/-- What was pushed is current. -/
theorem current_push {url : Text} {entry : Url} (hurl : h.resolve? url = some entry) :
    (h.push url).current = entry := by
  obtain ⟨hentries, hindex, -⟩ := push_of_some hurl
  refine current_eq entry ?_
  rw [hentries, hindex, List.getElem?_append_right (Nat.le_of_eq h.length_take_index),
    h.length_take_index]
  simp

/-- What replaced the current entry is current. -/
theorem current_replace {url : Text} {entry : Url} (hurl : h.resolve? url = some entry) :
    (h.replace url).current = entry := by
  obtain ⟨hentries, hindex, -⟩ := replace_of_some hurl
  refine current_eq entry ?_
  rw [hentries, hindex, List.getElem?_set_self h.index_lt]

/-- The entries after a URL was recorded. -/
theorem mem_of_mem_push {url : Text} {entry found : Url} (hurl : h.resolve? url = some entry)
    (hfound : found ∈ (h.push url).entries) : found ∈ h.entries ∨ found = entry := by
  rw [(push_of_some hurl).1] at hfound
  rcases List.mem_append.mp hfound with hfound | hfound
  · exact .inl (List.mem_of_mem_take hfound)
  · exact .inr (List.mem_singleton.mp hfound)

/-- The entries after the current one was replaced. -/
theorem mem_of_mem_replace {url : Text} {entry found : Url} (hurl : h.resolve? url = some entry)
    (hfound : found ∈ (h.replace url).entries) : found ∈ h.entries ∨ found = entry := by
  rw [(replace_of_some hurl).1] at hfound
  exact List.mem_or_eq_of_mem_set hfound

/-- A canonical URL is recorded by a push. -/
theorem records_push (hcurrent : h.current.IsMemory) {url : Text}
    (hurl : Address.IsCanonicalUrl url) : Records h (h.push url) url := by
  obtain ⟨entry, hentry, hmemory, hpath⟩ := hcurrent.exists_join hurl
  rw [← resolve?_eq_join hurl] at hentry
  refine ⟨?_, fun found hfound => ?_, (push_of_some hentry).2.2⟩
  · rw [currentPath, current_push hentry, hpath]
  · refine (mem_of_mem_push hentry hfound).imp_right ?_
    rintro rfl
    exact ⟨hmemory, hpath⟩

/-- A canonical URL is recorded by a replacement. -/
theorem records_replace (hcurrent : h.current.IsMemory) {url : Text}
    (hurl : Address.IsCanonicalUrl url) : Records h (h.replace url) url := by
  obtain ⟨entry, hentry, hmemory, hpath⟩ := hcurrent.exists_join hurl
  rw [← resolve?_eq_join hurl] at hentry
  refine ⟨?_, fun found hfound => ?_, (replace_of_some hentry).2.2⟩
  · rw [currentPath, current_replace hentry, hpath]
  · refine (mem_of_mem_replace hentry hfound).imp_right ?_
    rintro rfl
    exact ⟨hmemory, hpath⟩

/-- **A move queues the URL that it leads to, or does nothing.** -/
theorem go_cases (h : History) (delta : Int) :
    h.go delta = h ∨ (h.go delta).entries = h.entries ∧
      (h.go delta).events = h.events ++ [.pop (h.go delta).currentPath] := by
  unfold go
  dsimp only
  split
  · exact .inl rfl
  · split
    · exact .inr ⟨rfl, rfl⟩
    · exact .inl rfl

end History
end Routing
