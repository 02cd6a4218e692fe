/-
# Resolving canonical URLs

Every location of a plain route has a canonical URL, which is read as it is written
(`Route.isCanonicalUrl_of_locate`).  A table of plain routes resolves every canonical URL that one
of its routes decodes, by whichever route comes first (`RouteTable.IsPlain.exists_resolve`).

A table is plain if all its routes are, and the candidates for a URL are the routes in another
order at most (`mem_candidates`), so what holds of every route that decodes a URL holds of the one
that is found, under either strategy.
-/

import Mathlib.Data.List.Nodup
import Routing.Proofs.Pattern.RoundTrip
import Routing.RouteTable

namespace Routing

/-- The URL is rendered from an address that is read back. -/
def Address.IsCanonicalUrl (url : Text) : Prop :=
  ∃ address : Address, Address.IsCanonical address.path ∧ address.render = url

namespace Route

variable {r : Route} {data : RouteData} {location : Location}

/-- A route locates data that it encodes to a URL that it decodes. -/
theorem locate_eq_ok_iff :
    r.locate data = .ok location ↔
      ∃ path found, r.pattern.encodePath data.params = .ok path ∧
        r.pattern.decode (Pattern.withPath data path) = some found ∧
        location = ⟨r.name, path, Pattern.withPath data path, found⟩ := by
  unfold locate
  cases hpath : r.pattern.encodePath data.params with
  | error e => simp
  | ok path =>
    cases hfound : r.pattern.decode (Pattern.withPath data path) with
    | none => simp [hfound]
    | some found => simp [hfound, eq_comm]

/-- **The URL of a location is canonical**, and its route decodes it. -/
theorem isCanonicalUrl_of_locate (h : r.pattern.IsPlain) (hlocate : r.locate data = .ok location) :
    Address.IsCanonicalUrl location.fullPath ∧
      r.pattern.decode location.fullPath = some location.data := by
  obtain ⟨path, found, hpath, hfound, rfl⟩ := locate_eq_ok_iff.mp hlocate
  exact ⟨⟨⟨path, data.search, data.hash⟩, h.isCanonical_of_decode hpath hfound, rfl⟩, hfound⟩

/-- A plain route locates what it decodes from a canonical URL. -/
theorem exists_locate (h : r.pattern.IsPlain) {url : Text} (hurl : Address.IsCanonicalUrl url)
    (hdecode : r.pattern.decode url = some data) : ∃ location, r.locate data = .ok location := by
  obtain ⟨address, hcanonical, rfl⟩ := hurl
  obtain ⟨path, hpath⟩ := h.exists_encoded (Address.read?_render hcanonical) hdecode
  have hagain := hpath.decode ⟨hpath.isWritten, hpath.single, hpath.noDots hcanonical.noDots⟩
  exact ⟨_, locate_eq_ok_iff.mpr ⟨path, data, hpath.encodePath, hagain, rfl⟩⟩

end Route

namespace RouteTable

variable {t : RouteTable} {strategy : MatchStrategy} {url : Text}

/-- The patterns of the routes are plain. -/
def IsPlain (t : RouteTable) : Prop := ∀ r ∈ t.routes, r.pattern.IsPlain

/-- The table without routes is plain. -/
theorem isPlain_empty : empty.IsPlain := by simp [IsPlain, empty]

/-- A route is registered behind those that are there. -/
theorem routes_insert {t' : RouteTable} {r : Route} (h : t.insert r = .ok t') :
    t'.routes = t.routes ++ [r] := by
  unfold RouteTable.insert at h
  split at h
  · cases h
  · obtain rfl := Except.ok.inj h
    rfl

/-- A plain table stays plain behind a plain route. -/
theorem IsPlain.insert (h : t.IsPlain) {t' : RouteTable} {r : Route} (hr : r.pattern.IsPlain)
    (hinsert : t.insert r = .ok t') : t'.IsPlain := by
  intro route hroute
  rw [routes_insert hinsert] at hroute
  rcases List.mem_append.mp hroute with hroute | hroute
  · exact h route hroute
  · rwa [List.mem_singleton.mp hroute]

/-- Routes of a table with one name are the same. -/
theorem eq_of_name_eq {r other : Route} (hr : r ∈ t.routes) (hother : other ∈ t.routes)
    (hname : r.name = other.name) : r = other :=
  List.inj_on_of_nodup_map t.namesDistinct hr hother hname

/-- The routes that are tried are the routes of the table, in whatever order. -/
theorem mem_candidates {r : Route} : r ∈ t.candidates strategy ↔ r ∈ t.routes := by
  cases strategy with
  | firstMatch => rfl
  | ranked => exact List.mem_mergeSort

/-- The route that is found decodes the URL, to the data that is found. -/
theorem of_firstDecoding {routes : List Route} {r : Route} {data : RouteData}
    (h : firstDecoding url routes = some (r, data)) :
    r ∈ routes ∧ r.pattern.decode url = some data := by
  obtain ⟨found, hmem, hfound⟩ := List.exists_of_findSome?_eq_some h
  obtain ⟨_, hdecode, heq⟩ := Option.map_eq_some_iff.mp hfound
  obtain ⟨rfl, rfl⟩ := Prod.mk.inj heq
  exact ⟨hmem, hdecode⟩

/-- A URL is resolved by a route that decodes it. -/
theorem exists_of_resolve {location : Location}
    (h : t.resolve url strategy = .ok (some location)) :
    ∃ r ∈ t.routes, ∃ data, r.pattern.decode url = some data ∧ r.locate data = .ok location := by
  unfold resolve at h
  split at h
  case h_1 => cases h
  case h_2 r data hfirst =>
    obtain ⟨hmem, hdecode⟩ := of_firstDecoding hfirst
    refine ⟨r, mem_candidates.mp hmem, data, hdecode, ?_⟩
    cases hlocate : r.locate data with
    | error e =>
      rw [hlocate] at h
      cases h
    | ok found =>
      rw [hlocate] at h
      rw [Option.some.inj (Except.ok.inj h)]

/-- **A plain table resolves the canonical URLs that its routes decode.** -/
theorem IsPlain.exists_resolve (h : t.IsPlain) (strategy : MatchStrategy)
    (hurl : Address.IsCanonicalUrl url) {r : Route} (hr : r ∈ t.routes) {data : RouteData}
    (hdecode : r.pattern.decode url = some data) :
    ∃ location, t.resolve url strategy = .ok (some location) := by
  unfold resolve
  cases hfirst : firstDecoding url (t.candidates strategy) with
  | none =>
    have := List.findSome?_eq_none_iff.mp hfirst r (mem_candidates.mpr hr)
    simp [hdecode] at this
  | some found =>
    obtain ⟨first, data⟩ := found
    obtain ⟨hmem, hdecode⟩ := of_firstDecoding hfirst
    obtain ⟨location, hlocate⟩ :=
      Route.exists_locate (h first (mem_candidates.mp hmem)) hurl hdecode
    refine ⟨location, ?_⟩
    dsimp only
    rw [hlocate]
    rfl

/-- A plain table resolves the URLs of the locations of its routes. -/
theorem IsPlain.exists_resolve_fullPath (h : t.IsPlain) (strategy : MatchStrategy) {r : Route}
    (hr : r ∈ t.routes) {data : RouteData} {location : Location}
    (hlocate : r.locate data = .ok location) :
    ∃ found, t.resolve location.fullPath strategy = .ok (some found) := by
  obtain ⟨hurl, hdecode⟩ := Route.isCanonicalUrl_of_locate (h r hr) hlocate
  exact h.exists_resolve strategy hurl hr hdecode

end RouteTable
end Routing
