/-
# Following a history

A router over plain routes can go back to wherever it has been: every entry of its history, and
every event that a user queues by a move, leads to a location (`IsSound.perform`).  So handling
the events can only fail where the router is told to refuse duplicates, and it leads to where the
last event does (`drained_drain`).

Soundness is about URLs that are already in the history or in its queue: each of them resolves to a
location (`IsSound`).  A navigation adds the URL of a location, which resolves again
(`RouteTable.IsPlain.exists_resolve_fullPath`), and a move queues the URL of an entry, so every
operation keeps it.
-/

import Routing.Proofs.History
import Routing.Proofs.Router.Run

namespace Routing
namespace Router

variable {r : Router}

/-- The URL leads to a location. -/
def Resolves (r : Router) (url : Text) : Prop :=
  ∃ location, r.table.resolve url r.config.matchStrategy = .ok (some location)

/-- The URL of the location that the events lead to: the last one decides. -/
def due (r : Router) : Text :=
  match r.history.events.getLast? with
  | none => r.location.fullPath
  | some (.pop url) | some (.push url) =>
    match r.decode url with
    | .ok location => location.fullPath
    | .error _ => r.location.fullPath

/-- A router whose history leads nowhere but to locations. -/
structure IsSound (r : Router) : Prop where
  /-- The routes are plain. -/
  plain : r.table.IsPlain
  /-- Every entry leads to a location. -/
  entries : ∀ entry ∈ r.history.entries, entry.IsMemory ∧ r.Resolves entry.pathAndAfter
  /-- The user has moved to URLs that lead to locations. -/
  events : ∀ event ∈ r.history.events, ∃ url, event = .pop url ∧ r.Resolves url

/-- A URL is located by resolving it. -/
theorem locate_url {url : Text} {location : Location}
    (h : r.table.resolve url r.config.matchStrategy = .ok (some location)) :
    r.locate (.url url) = .ok location := by
  rw [locate, h]

/-- With no event waiting, a router is due where it is. -/
theorem due_of_nil (h : r.history.events = []) : r.due = r.location.fullPath := by
  rw [due, h]
  rfl

/-- A router is due where the last event leads. -/
theorem due_of_getLast? {url : Text} {location : Location}
    (hlast : r.history.events.getLast? = some (.pop url))
    (h : r.table.resolve url r.config.matchStrategy = .ok (some location)) :
    r.due = location.fullPath := by
  rw [due, hlast]
  dsimp only
  rw [decode, locate_url h]

/-- What comes of following the history to a location. -/
theorem navigate_follow (r : Router) (location : Location) :
    ∃ reached : Location, reached.fullPath = location.fullPath ∧
      (r.navigate location .follow).router = { r with location := reached } ∧
      ∀ e, (r.navigate location .follow).result = .error e →
        e = .duplicateNavigation location.fullPath ∧ r.config.onDuplicateNavigation = .error := by
  unfold navigate
  split
  case isTrue hsame =>
    refine ⟨r.location, hsame.symm, ?_⟩
    split
    case h_1 => exact ⟨rfl, by rintro e ⟨⟩⟩
    case h_2 hpolicy => exact ⟨rfl, fun e he => ⟨(Except.error.inj he).symm, hpolicy⟩⟩
  case isFalse => exact ⟨location, rfl, rfl, by rintro e ⟨⟩⟩

/-- Nothing fails but a navigation to where a router is, and only if the router refuses it. -/
def OnlyDuplicatesFail (config : RouterConfig) (result : Except NavigationError Unit) : Prop :=
  ∀ e, result = .error e →
    (∃ url, e = .duplicateNavigation url) ∧ config.onDuplicateNavigation = .error

/-- What comes of handling events that lead to locations. -/
structure Drained (r : Router) (events : List HistoryEvent)
    (o : Outcome (Except NavigationError Unit)) : Prop where
  /-- Only the location and the queue may change. -/
  router : o.router = { r with
    location := o.router.location
    history := { r.history with events := o.router.history.events } }
  /-- The first event is taken, at least. -/
  taken : o.router.history.events <:+ events.tail
  /-- The events that are left lead where all of them did. -/
  due : o.router.due = (r.withEvents events).due
  /-- Without failure, no events are left. -/
  ok : o.result = .ok () → o.router.history.events = []
  /-- Only duplicates fail. -/
  error : OnlyDuplicatesFail r.config o.result

/-- An event that was handled does not count, whether or not others are waiting. -/
theorem due_withEvents_cons {url : Text} {location reached : Location}
    {events : List HistoryEvent}
    (hresolve : r.table.resolve url r.config.matchStrategy = .ok (some location))
    (hreached : reached.fullPath = location.fullPath)
    (hevents : ∀ event ∈ events, ∃ url, event = .pop url ∧ r.Resolves url) :
    ({ r with location := reached }.withEvents events).due =
      (r.withEvents (.pop url :: events)).due := by
  rcases List.eq_nil_or_concat events with rfl | ⟨init, last, rfl⟩
  · rw [due_of_nil rfl]
    exact hreached.trans (due_of_getLast? (r := r.withEvents [.pop url]) rfl hresolve).symm
  · obtain ⟨url', rfl, location', hresolve'⟩ := hevents last (by simp)
    have hlast (s : Router) (before : List HistoryEvent) (htable : s.table = r.table)
        (hconfig : s.config = r.config) :
        (s.withEvents (before ++ [.pop url'])).due = location'.fullPath := by
      refine due_of_getLast? (List.getLast?_concat) ?_
      rw [withEvents, htable, hconfig]
      exact hresolve'
    rw [List.concat_eq_append]
    exact (hlast { r with location := reached } init rfl rfl).trans
      (hlast r (.pop url :: init) rfl rfl).symm

/-- **Handling events leads where the last of them does.**  The ones before are followed as well,
but the router does not stay where they lead. -/
theorem drained_drain {events : List HistoryEvent}
    (h : ∀ event ∈ events, ∃ url, event = .pop url ∧ r.Resolves url) :
    Drained r events (r.drain events) := by
  induction events generalizing r with
  | nil => exact ⟨rfl, List.suffix_refl _, rfl, fun _ => rfl, by rintro e ⟨⟩⟩
  | cons event events ih =>
    obtain ⟨⟨url, rfl, location, hresolve⟩, hrest⟩ := List.forall_mem_cons.mp h
    obtain ⟨reached, hreached, hrouter, herror⟩ :=
      navigate_follow (r.withEvents events) location
    have hdue := due_withEvents_cons hresolve hreached hrest
    have hstep : (r.withEvents events).handle (.pop url) =
        (r.withEvents events).navigate location .follow := by
      rw [handle, navigateTo, locate_url (r := r.withEvents events) hresolve]
    rw [drain, hstep]
    -- From here on it only matters whether the first event failed.
    generalize (r.withEvents events).navigate location .follow = step at hrouter herror
    obtain ⟨router, heard, result⟩ := step
    obtain rfl : router = { r with location := reached }.withEvents events := hrouter
    cases result with
    | error e =>
      show Drained r _ ⟨_, heard, .error e⟩
      refine ⟨rfl, List.suffix_refl _, hdue, by rintro ⟨⟩, fun e' he' => ?_⟩
      obtain rfl := Except.error.inj he'
      obtain ⟨heq, hpolicy⟩ := herror e rfl
      exact ⟨⟨_, heq⟩, hpolicy⟩
    | ok landed =>
      have hdrained := ih (r := { r with location := reached }.withEvents events) hrest
      refine ⟨hdrained.router, ?_, hdrained.due.trans hdue, hdrained.ok, hdrained.error⟩
      exact hdrained.taken.trans (List.tail_suffix events)

/-- A target leads to a location of a route. -/
theorem exists_of_locate {target : NavigationTarget} {location : Location}
    (h : r.locate target = .ok location) :
    ∃ route ∈ r.table.routes, ∃ data, route.locate data = .ok location := by
  cases target with
  | named name data =>
    rw [locate, RouteTable.get] at h
    split at h
    case h_1 route hfind => exact ⟨route, List.mem_of_find?_eq_some hfind, data, h⟩
    case h_2 => cases h
  | url url =>
    rw [locate] at h
    split at h
    case h_1 => cases h
    case h_2 => cases h
    case h_3 hresolve =>
      obtain rfl := Except.ok.inj h
      obtain ⟨route, hmem, data, -, hlocate⟩ := RouteTable.exists_of_resolve hresolve
      exact ⟨route, hmem, data, hlocate⟩

/-- A navigation that is recorded leaves the router at its location, or as it was. -/
theorem navigateTo_cases (h : r.IsSound) (target : NavigationTarget) {recording : Recording}
    (hrecording : recording ≠ .follow) :
    ((r.navigateTo target recording).router = r ∧
        (r.navigateTo target recording).result ≠ .ok true) ∨
      ∃ location history, History.Records r.history history location.fullPath ∧
        r.Resolves location.fullPath ∧
        (r.navigateTo target recording).router = { r with history, location } ∧
        (r.navigateTo target recording).result = .ok true := by
  unfold navigateTo
  split
  case h_1 => exact .inl ⟨rfl, by rintro ⟨⟩⟩
  case h_2 location hlocate =>
    unfold navigate
    split
    case isTrue => split <;> exact .inl ⟨rfl, by simp⟩
    case isFalse =>
      obtain ⟨route, hmem, data, hlocate⟩ := exists_of_locate hlocate
      have hurl := (Route.isCanonicalUrl_of_locate (h.plain route hmem) hlocate).1
      have hcurrent := (h.entries _ r.history.current_mem).1
      refine .inr ⟨location, recording.record r.history location.fullPath, ?_,
        h.plain.exists_resolve_fullPath _ hmem hlocate, rfl, rfl⟩
      cases recording with
      | push => exact History.records_push hcurrent hurl
      | replace => exact History.records_replace hcurrent hurl
      | follow => exact absurd rfl hrecording

namespace IsSound

/-- A navigation that is recorded keeps a router sound. -/
theorem navigateTo (h : r.IsSound) (target : NavigationTarget) {recording : Recording}
    (hrecording : recording ≠ .follow) : (r.navigateTo target recording).router.IsSound := by
  rcases navigateTo_cases h target hrecording with ⟨hrouter, -⟩ | ⟨location, history, hrecords,
    hresolves, hrouter, -⟩
  · rwa [hrouter]
  · rw [hrouter]
    refine ⟨h.plain, fun entry hentry => ?_, ?_⟩
    · rcases hrecords.entries entry hentry with hentry | ⟨hmemory, hpath⟩
      · exact h.entries entry hentry
      · exact ⟨hmemory, by rwa [hpath]⟩
    · intro event hevent
      rw [hrecords.events] at hevent
      exact h.events event hevent

/-- The history moves. -/
theorem move (h : r.IsSound) (delta : Int) : { r with history := r.history.go delta }.IsSound := by
  rcases r.history.go_cases delta with hgo | ⟨hentries, hevents⟩
  · rwa [hgo]
  · have hall : ∀ entry ∈ (r.history.go delta).entries,
        entry.IsMemory ∧ r.Resolves entry.pathAndAfter := by
      rw [hentries]
      exact h.entries
    refine ⟨h.plain, hall, fun event hevent => ?_⟩
    rw [hevents] at hevent
    rcases List.mem_append.mp hevent with hevent | hevent
    · exact h.events event hevent
    · exact ⟨_, List.mem_singleton.mp hevent, (hall _ (History.current_mem _)).2⟩

/-- Handling the events of a sound router leads where the last of them does. -/
theorem drained (h : r.IsSound) : Drained r r.history.events r.sync := drained_drain h.events

/-- Handling events keeps a router sound. -/
theorem sync (h : r.IsSound) : r.sync.router.IsSound := by
  have hdrained := h.drained
  rw [hdrained.router]
  refine ⟨h.plain, h.entries, fun event hevent => h.events event ?_⟩
  exact (hdrained.taken.trans (List.tail_suffix _)).subset hevent

/-- **Every operation of a caller, and every move of a user, leads to locations.** -/
theorem perform (h : r.IsSound) {op : Op} (hop : op.IsOwnOrMove) :
    (op.perform r).router.IsSound := by
  have hgo (delta : Int) : (r.go delta).router.IsSound := (h.move delta).sync
  cases op with
  | push target => exact h.navigateTo target (by decide)
  | replace target => exact h.navigateTo target (by decide)
  | back => exact hgo (-1)
  | forward => exact hgo 1
  | go delta => exact hgo delta
  | handle event => exact hop.elim
  | sync => exact h.sync
  | subscribe => exact ⟨h.plain, h.entries, h.events⟩
  | unsubscribe id => exact ⟨h.plain, h.entries, h.events⟩
  | history step =>
    cases step with
    | go delta => exact h.move delta
    | back => exact h.move (-1)
    | forward => exact h.move 1
    | push | replace | emit | poll => exact hop.elim

end IsSound

end Router
end Routing
