/-
# What listeners hear

Every operation of a run has its happenings (`Op.happenings`), and does to the router, and to those
who listen to it, what they say (`Router.heeds_perform`).  So does a run (`Router.heeds_run`); and
of a new router every listener hears where the router is when it is added, and then every place
that the router goes to until it is removed (`Router.isHeard_run`).

Two structures say what a part of a run does.  `Router.Travels` is for what only moves the router,
one navigation or the handling of many events, and `Router.Heeds` for everything, with listeners
added and removed.  Both are reflexive and transitive, so a loop or a run is followed step by step,
and the first gives the second (`Router.Travels.heeds`).  The numbers of listeners are an initial
segment of the natural numbers throughout, which is why none is given away twice.
-/

import Routing.Proofs.Router.Happenings
import Routing.Proofs.Router.Run
import Routing.Proofs.Traversal

namespace Routing

/-- Where a navigation leads, if it takes effect. -/
def Outcome.visited (o : Outcome (Except NavigationError Bool)) : List Location :=
  match o.result with
  | .ok true => [o.router.location]
  | _ => []

/-- Where the handling of events leads, in order. -/
def Router.visits (r : Router) : List HistoryEvent → List Location
  | [] => []
  | event :: events =>
    let step := (r.withEvents events).handle event
    match step.result with
    | .error _ => []
    | .ok _ => step.visited ++ step.router.visits events

/-- Where a move through the history leads, in order. -/
def Router.visitsOfGo (r : Router) (delta : Int) : List Location :=
  { r with history := r.history.go delta }.visits (r.history.go delta).events

/-- What happens during an operation. -/
def Op.happenings (r : Router) : Op → List Happening
  | push target => (r.push target).visited.map .moved
  | replace target => (r.replace target).visited.map .moved
  | back => (r.visitsOfGo (-1)).map .moved
  | forward => (r.visitsOfGo 1).map .moved
  | go delta => (r.visitsOfGo delta).map .moved
  | handle event => (r.handle event).visited.map .moved
  | sync => (r.visits r.history.events).map .moved
  | subscribe => [.subscribed r.subscribe.result r.location]
  | unsubscribe id => [.unsubscribed id]
  | history _ => []

namespace Router

/-- What happens during a run. -/
def happenings (r : Router) : List Op → List Happening
  | [] => []
  | op :: ops => op.happenings r ++ (op.perform r).router.happenings ops

/-- The calls during a run. -/
def log (r : Router) : List Op → List Call
  | [] => []
  | op :: ops => (op.perform r).heard ++ (op.perform r).router.log ops

end Router

open Happening

/-- What a navigation, or several of them, do to a router: the listeners stay, and hear every place
that the router goes to. -/
structure Router.Travels (r r' : Router) (heard : List Call) (visited : List Location) : Prop where
  /-- The listeners are the same. -/
  listeners : r'.listeners = r.listeners
  /-- No listener is added. -/
  nextId : r'.nextId = r.nextId
  /-- The listeners hear every place. -/
  heard : heard = visited.flatMap r.callsWith
  /-- Every place is another one than the place before. -/
  follows : Follows r.location (visited.map .moved)
  /-- The router is at the last place. -/
  location : r'.location = placeAfter r.location (visited.map .moved)

namespace Router

variable {r r' r'' : Router} {heard heard' : List Call}

/-- A router that stays where it is has visited nothing. -/
theorem Travels.refl (r : Router) : r.Travels r [] [] := ⟨rfl, rfl, rfl, trivial, rfl⟩

/-- Two journeys in a row are one, since the listeners are still the same. -/
theorem Travels.trans {visited visited' : List Location} (h : r.Travels r' heard visited)
    (h' : r'.Travels r'' heard' visited') :
    r.Travels r'' (heard ++ heard') (visited ++ visited') where
  listeners := h'.listeners.trans h.listeners
  nextId := h'.nextId.trans h.nextId
  heard := by
    have hcalls : r'.callsWith = r.callsWith := by
      funext location
      rw [callsWith, h.listeners]
      rfl
    rw [List.flatMap_append, h.heard, h'.heard, hcalls]
  follows := by
    rw [List.map_append]
    exact h.follows.append (h.location ▸ h'.follows)
  location := by
    rw [List.map_append, placeAfter_append, ← h.location]
    exact h'.location

/-- A navigation that is new is heard; one that is not leaves the router as it was. -/
theorem travels_navigateTo (r : Router) (target : NavigationTarget) (recording : Recording) :
    r.Travels (r.navigateTo target recording).router (r.navigateTo target recording).heard
      (r.navigateTo target recording).visited := by
  unfold navigateTo
  split
  case h_1 => exact .refl r
  case h_2 location hlocate =>
    unfold navigate
    split
    case isTrue =>
      cases r.config.onDuplicateNavigation with
      | ignore => exact .refl r
      | error => exact .refl r
    case isFalse hne =>
      exact ⟨rfl, rfl, by simp [Outcome.visited], ⟨Ne.symm hne, trivial⟩, rfl⟩

/-- Handling an event is a navigation. -/
theorem travels_handle (r : Router) (event : HistoryEvent) :
    r.Travels (r.handle event).router (r.handle event).heard (r.handle event).visited := by
  cases event with
  | pop url => exact travels_navigateTo r _ _
  | push url => exact travels_navigateTo r _ _

/-- Of a failing event nothing is heard. -/
theorem visited_eq_nil {o : Outcome (Except NavigationError Bool)} {e : NavigationError}
    (h : o.result = .error e) : o.visited = [] := by
  rw [Outcome.visited, h]

/-- The listeners do not notice the history. -/
theorem travels_history (r : Router) (history : History) :
    r.Travels { r with history } [] [] := ⟨rfl, rfl, rfl, trivial, rfl⟩

/-- Handling events, up to the first that fails, is one journey. -/
theorem travels_drain (r : Router) (events : List HistoryEvent) :
    r.Travels (r.drain events).router (r.drain events).heard (r.visits events) := by
  induction events generalizing r with
  | nil => exact travels_history r _
  | cons event events ih =>
    have hstep := (travels_history r _).trans (travels_handle (r.withEvents events) event)
    rw [List.nil_append, List.nil_append] at hstep
    rw [drain, visits]
    dsimp only
    cases hresult : ((r.withEvents events).handle event).result with
    | error e =>
      rw [visited_eq_nil hresult] at hstep
      exact hstep
    | ok moved => exact hstep.trans (ih _)

/-- A move through the history is the journey along the events that it queues. -/
theorem travels_go (r : Router) (delta : Int) :
    r.Travels (r.go delta).router (r.go delta).heard (r.visitsOfGo delta) :=
  (travels_history r (r.history.go delta)).trans (travels_drain _ _)

/-- What happenings do to a router. -/
structure Heeds (r r' : Router) (heard : List Call) (hs : List Happening) : Prop where
  /-- The calls are those of the happenings. -/
  heard : heard = allCalls r.listeners hs
  /-- The listeners are those behind the happenings. -/
  listeners : r'.listeners = hs.foldl Happening.listeners r.listeners
  /-- The listeners are numbered in the order of their subscription. -/
  issued : List.range r.nextId ++ issued hs = List.range r'.nextId
  /-- The happenings fit the place of the router. -/
  follows : Follows r.location hs
  /-- The router is where the happenings lead. -/
  location : r'.location = placeAfter r.location hs

/-- Nothing happens in a router that is left alone. -/
theorem Heeds.refl (r : Router) : r.Heeds r [] [] :=
  ⟨rfl, rfl, List.append_nil _, trivial, rfl⟩

/-- Happenings in a row do to a router what the first and then the second do. -/
theorem Heeds.trans {hs hs' : List Happening} (h : r.Heeds r' heard hs)
    (h' : r'.Heeds r'' heard' hs') : r.Heeds r'' (heard ++ heard') (hs ++ hs') where
  heard := by rw [allCalls_append, ← h.listeners, h.heard, h'.heard]
  listeners := by rw [List.foldl_append, ← h.listeners, h'.listeners]
  issued := by
    rw [Happening.issued, List.filterMap_append, ← List.append_assoc]
    exact h.issued ▸ h'.issued
  follows := h.follows.append (h.location ▸ h'.follows)
  location := by rw [placeAfter_append, ← h.location, h'.location]

/-- A journey is what happens when the router goes to its places. -/
theorem Travels.heeds {visited : List Location} (h : r.Travels r' heard visited) :
    r.Heeds r' heard (visited.map .moved) where
  heard := by
    rw [allCalls_map_moved, h.heard]
    rfl
  listeners := by rw [listeners_map_moved, h.listeners]
  issued := by rw [issued_map_moved, List.append_nil, h.nextId]
  follows := h.follows
  location := h.location

/-- **Every operation does to a router what happens during it.** -/
theorem heeds_perform (r : Router) (op : Op) :
    r.Heeds (op.perform r).router (op.perform r).heard (op.happenings r) := by
  cases op with
  | push target => exact (travels_navigateTo r target .push).heeds
  | replace target => exact (travels_navigateTo r target .replace).heeds
  | back => exact (travels_go r (-1)).heeds
  | forward => exact (travels_go r 1).heeds
  | go delta => exact (travels_go r delta).heeds
  | handle event => exact (travels_handle r event).heeds
  | sync => exact (travels_drain r _).heeds
  | subscribe => exact ⟨rfl, rfl, List.range_succ.symm, ⟨rfl, trivial⟩, rfl⟩
  | unsubscribe id => exact ⟨rfl, rfl, List.append_nil _, trivial, rfl⟩
  | history step => exact ⟨rfl, rfl, List.append_nil _, trivial, rfl⟩

/-- **So does every run.** -/
theorem heeds_run (r : Router) (ops : List Op) :
    r.Heeds (r.run ops) (r.log ops) (r.happenings ops) := by
  induction ops generalizing r with
  | nil => exact .refl r
  | cons op ops ih => exact (heeds_perform r op).trans (ih _)

/-- What the listeners of a router and its callers see of a run. -/
structure IsHeard (r : Router) (ops : List Op) : Prop where
  /-- The listeners are numbered from zero on, in the order of their subscription. -/
  issued : issued (r.happenings ops) = List.range (r.run ops).nextId
  /-- The calls are those of the happenings. -/
  log : r.log ops = allCalls [] (r.happenings ops)
  /-- The router is where the happenings lead. -/
  location : (r.run ops).location = placeAfter r.location (r.happenings ops)
  /-- Every listener hears what it should hear. -/
  heardBy : ∀ id, Call.locationsOf id (r.log ops) = heardBy id (r.happenings ops)
  /-- No listener is called twice in a row with one URL. -/
  changes : ∀ id, (Call.locationsOf id (r.log ops)).IsChain (·.fullPath ≠ ·.fullPath)
  /-- Every listener that has not been removed was called with the current location last. -/
  current : ∀ id, IsLive id (r.happenings ops) →
    (Call.locationsOf id (r.log ops)).getLast? = some (r.run ops).location
  /-- The listeners are those that have not been removed. -/
  live : ∀ id, id ∈ (r.run ops).listeners ↔ IsLive id (r.happenings ops)
  /-- They stand in the order of their subscription. -/
  ascending : (r.run ops).listeners.Pairwise (· < ·)
  /-- A listener can be removed once. -/
  removed : ∀ id, ((r.run ops).unsubscribe id).result = true ↔ IsLive id (r.happenings ops)
  /-- Removing a listener leaves the others, their order, and all else as they were. -/
  others : ∀ id, ((r.run ops).unsubscribe id).router =
    { r.run ops with listeners := (r.run ops).listeners.filter (· != id) }
  /-- A listener that was removed hears nothing more. -/
  silent : ∀ id later, id < (r.run ops).nextId →
    Call.locationsOf id (((r.run ops).unsubscribe id).router.log later) = []

/-- **Listeners hear where a router is, and every place that it goes to.**  This holds of any run,
with steps of the history beside the router among them: each listener hears the places between its
subscription and its removal, in order and without two in a row that have one URL; and unless it was
removed, the last one of them is the current one. -/
theorem isHeard_run {table : RouteTable} {history : History} {config : RouterConfig}
    (hnew : new table history config = .ok r) (ops : List Op) : r.IsHeard ops := by
  obtain ⟨hlisteners, hnextId⟩ : r.listeners = [] ∧ r.nextId = 0 := by
    unfold new at hnew
    split at hnew
    case h_1 => cases hnew
    case h_2 => cases hnew
    case h_3 => obtain rfl := Except.ok.inj hnew; exact ⟨rfl, rfl⟩
  have hheeds := heeds_run r ops
  have hlog : r.log ops = allCalls [] (r.happenings ops) := hlisteners ▸ hheeds.heard
  have hissued : Happening.issued (r.happenings ops) = List.range (r.run ops).nextId := by
    rw [← hheeds.issued, hnextId]
    rfl
  have hnodup : (Happening.issued (r.happenings ops)).Nodup := hissued ▸ List.nodup_range
  have hbehind : (r.run ops).listeners = (r.happenings ops).foldl Happening.listeners [] :=
    hlisteners ▸ hheeds.listeners
  have hheard (id : Nat) :
      Call.locationsOf id (r.log ops) = Happening.heardBy id (r.happenings ops) := by
    rw [hlog]
    exact locationsOf_eq_heardBy hnodup List.not_mem_nil
  have hlive (id : Nat) : id ∈ (r.run ops).listeners ↔ IsLive id (r.happenings ops) := by
    rw [hbehind, mem_foldl_listeners]
    simp
  exact {
    issued := hissued
    log := hlog
    location := hheeds.location
    heardBy := hheard
    changes := fun id => hheard id ▸ hheeds.follows.isChain_heardBy id
    current := fun id hid => by
      rw [hheard, hheeds.follows.getLast?_heardBy hnodup hid, hheeds.location]
    live := hlive
    ascending := by
      have hsublist := foldl_listeners_sublist [] (r.happenings ops)
      rw [hbehind]
      refine List.Pairwise.sublist hsublist ?_
      rw [List.nil_append, hissued]
      exact List.pairwise_lt_range
    removed := fun id => by
      rw [← hlive]
      exact List.contains_iff_mem
    others := fun id => rfl
    -- The numbers that are given away later are greater, so this one is not given away again.
    silent := fun id later hlt => by
      have hlater := heeds_run ((r.run ops).unsubscribe id).router later
      have hrange : (List.range (r.run ops).nextId ++
          Happening.issued (((r.run ops).unsubscribe id).router.happenings later)).Nodup :=
        hlater.issued ▸ List.nodup_range
      rw [hlater.heard]
      refine locationsOf_eq_nil (by simp [unsubscribe]) fun hmem => ?_
      exact (List.nodup_append.mp hrange).2.2 id (List.mem_range.mpr hlt) id hmem rfl }

/-- A listener is added, and removed before the last navigation. -/
theorem isHeard_run_removed :
    ∃ table r, new table (History.new "/a".toList) {} = .ok r ∧
      r.IsHeard [.subscribe, .push (.url "/b".toList), .unsubscribe 0, .back] ∧
      (Call.locationsOf 0 (r.log [.subscribe, .push (.url "/b".toList), .unsubscribe 0,
        .back])).map Location.fullPath = ["/a".toList, "/b".toList] := by
  have hany : (Pattern.parse "/{x}".toList).toOption.any fun pattern =>
      (RouteTable.empty.insert ⟨[], pattern⟩).toOption.any fun table =>
        (new table (History.new "/a".toList) {}).toOption.any fun r =>
          (Call.locationsOf 0 (r.log [.subscribe, .push (.url "/b".toList), .unsubscribe 0,
            .back])).map Location.fullPath == ["/a".toList, "/b".toList] := by decide +kernel
  obtain ⟨pattern, -, hany⟩ := exists_of_any_toOption hany
  obtain ⟨table, -, hany⟩ := exists_of_any_toOption hany
  obtain ⟨r, hnew, hlog⟩ := exists_of_any_toOption hany
  exact ⟨table, r, hnew, isHeard_run hnew _, beq_iff_eq.mp hlog⟩

end Router
end Routing
