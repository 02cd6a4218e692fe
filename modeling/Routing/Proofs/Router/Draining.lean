/-
# Draining the queue

A router handles the events of its history by taking the oldest one again and again, up to the
first failure (`syncWithin?`).  No event adds to the queue, so this ends after as many events as
are waiting at first.  What comes of it is what comes of handling them in order; a failure takes
its event with it and nothing else (`drains_sync`).

The loop asks for the next event each time, where `sync` goes through the list of events that are
waiting at first.  The two agree since handling an event neither looks at the queue nor changes it
(`handle_withEvents`), so the queue can be set aside and put back around each step.
-/

import Routing.Router

namespace Routing

/-- The history with other events waiting. -/
def History.withEvents (h : History) (events : List HistoryEvent) : History := { h with events }

/-- A history records a URL without looking at its queue. -/
theorem Recording.record_withEvents (recording : Recording) (h : History) (url : Text)
    (events : List HistoryEvent) :
    recording.record (h.withEvents events) url = (recording.record h url).withEvents events := by
  have hresolve : (h.withEvents events).resolve? url = h.resolve? url := rfl
  cases recording with
  | push =>
    rw [record, record, History.push, History.push, hresolve]
    cases h.resolve? url <;> rfl
  | replace =>
    rw [record, record, History.replace, History.replace, hresolve]
    cases h.resolve? url <;> rfl
  | follow => rfl

/-- The outcome with other events waiting. -/
def Outcome.withEvents {α : Type} (o : Outcome α) (events : List HistoryEvent) : Outcome α :=
  ⟨o.router.withEvents events, o.heard, o.result⟩

/-- The outcome with calls before those of its own. -/
def Outcome.behind {α : Type} (heard : List Call) (o : Outcome α) : Outcome α :=
  ⟨o.router, heard ++ o.heard, o.result⟩

namespace Router

variable {r : Router}

/-- Takes the oldest event and handles it. -/
def handleNext? (r : Router) : Option (Outcome (Except NavigationError Bool)) :=
  match r.history.poll with
  | (none, _) => none
  | (some event, history) => some ({ r with history }.handle event)

/-- Takes events and handles them until there is none or one fails; nothing comes of it if more
than `limit` events have to be handled. -/
def syncWithin? (r : Router) : Nat → Option (Outcome (Except NavigationError Unit))
  | 0 =>
    match r.handleNext? with
    | none => some ⟨r, [], .ok ()⟩
    | some _ => none
  | limit + 1 =>
    match r.handleNext? with
    | none => some ⟨r, [], .ok ()⟩
    | some step =>
      match step.result with
      | .error e => some ⟨step.router, step.heard, .error e⟩
      | .ok _ => (step.router.syncWithin? limit).map (Outcome.behind step.heard)

/-- The router handles the events one by one without failure; then it is the last one, and its
listeners have heard the calls. -/
inductive Handles : Router → List HistoryEvent → List Call → Router → Prop where
  /-- There is no event. -/
  | nil (r : Router) : Handles r [] [] r
  /-- The first event is handled, and then the others. -/
  | cons {r next reached : Router} {event : HistoryEvent} {events : List HistoryEvent}
      {heard calls : List Call} {landed : Bool} :
    r.handle event = ⟨next, heard, .ok landed⟩ → Handles next events calls reached →
      Handles r (event :: events) (heard ++ calls) reached

/-- What comes of handling the events that are waiting. -/
structure Drains (r : Router) (o : Outcome (Except NavigationError Unit)) : Prop where
  /-- It comes of taking and handling no more events than are waiting. -/
  ends : r.syncWithin? r.history.events.length = some o
  /-- Without failure all events are handled in order, and none is left. -/
  ok : o.result = .ok () → ∃ reached,
    Handles r r.history.events o.heard reached ∧ o.router = reached.withEvents []
  /-- An event that fails changes nothing, and those behind it are left. -/
  error : ∀ e, o.result = .error e → ∃ before event after reached,
    r.history.events = before ++ event :: after ∧ Handles r before o.heard reached ∧
      reached.handle event = ⟨reached, [], .error e⟩ ∧ o.router = reached.withEvents after

section Handling

variable (r : Router) (event : HistoryEvent)

/-- A navigation does not depend on the queue, and leaves it as it is. -/
theorem navigateTo_withEvents (target : NavigationTarget) (recording : Recording)
    (events : List HistoryEvent) :
    (r.withEvents events).navigateTo target recording =
      (r.navigateTo target recording).withEvents events := by
  have hlocate : (r.withEvents events).locate target = r.locate target := by
    cases target <;> rfl
  rw [navigateTo, navigateTo, hlocate]
  cases r.locate target with
  | error e => rfl
  | ok location =>
    have hrecord := recording.record_withEvents r.history location.fullPath events
    by_cases hsame : location.fullPath = r.location.fullPath
    · simp only [navigate, withEvents, hsame, if_true]
      cases r.config.onDuplicateNavigation <;> rfl
    · simp only [navigate, withEvents, hsame, if_false]
      show Outcome.mk { r with history := recording.record (r.history.withEvents events) _,
                               location } _ _ = _
      rw [hrecord]
      rfl

/-- Handling an event does not depend on the queue, and leaves it as it is. -/
theorem handle_withEvents (events : List HistoryEvent) :
    (r.withEvents events).handle event = (r.handle event).withEvents events := by
  cases event with
  | pop url => exact navigateTo_withEvents r _ _ events
  | push url => exact navigateTo_withEvents r _ _ events

/-- **No event adds to the queue, or takes from it.**  So the queue only gets shorter while it is
handled, and what is left behind a failure is what was there. -/
theorem events_handle : (r.handle event).router.history.events = r.history.events :=
  congrArg (·.router.history.events) (r.handle_withEvents event r.history.events)

/-- A navigation that fails changes nothing. -/
theorem navigateTo_eq_of_error {target : NavigationTarget} {recording : Recording}
    {e : NavigationError} (h : (r.navigateTo target recording).result = .error e) :
    r.navigateTo target recording = ⟨r, [], .error e⟩ := by
  unfold navigateTo at h ⊢
  split at h
  case h_1 => rw [← h]
  case h_2 location _ =>
    unfold navigate at h ⊢
    split at h
    case isTrue hsame =>
      rw [if_pos hsame]
      split at h
      case h_1 => cases h
      case h_2 => rw [← h]
    case isFalse => cases h

/-- An event that fails changes nothing. -/
theorem handle_eq_of_error {e : NavigationError} (h : (r.handle event).result = .error e) :
    r.handle event = ⟨r, [], .error e⟩ := by
  cases event with
  | pop url => exact navigateTo_eq_of_error r h
  | push url => exact navigateTo_eq_of_error r h

end Handling

/-- What is handled does not depend on the queue. -/
theorem Handles.withEvents {reached : Router} {events : List HistoryEvent} {calls : List Call}
    (h : Handles r events calls reached) (waiting : List HistoryEvent) :
    Handles (r.withEvents waiting) events calls (reached.withEvents waiting) := by
  induction h with
  | nil r => exact .nil _
  | @cons r next _ event _ heard _ landed hhandle _ ih =>
    have hhandled : (r.withEvents waiting).handle event =
        (Outcome.mk next heard (.ok landed)).withEvents waiting := by
      rw [handle_withEvents, hhandle]
    exact .cons hhandled ih

section Cons

variable {event : HistoryEvent} {events : List HistoryEvent}

/-- The first event that is waiting is the one that is taken. -/
theorem handleNext?_withEvents :
    (r.withEvents (event :: events)).handleNext? = some ((r.handle event).withEvents events) :=
  congrArg some (r.handle_withEvents event events)

/-- The first event fails. -/
theorem drains_of_error {e : NavigationError} (h : (r.handle event).result = .error e) :
    Drains (r.withEvents (event :: events)) (r.drain (event :: events)) := by
  have hhandle := r.handle_eq_of_error event h
  have hdrain : r.drain (event :: events) = ⟨r.withEvents events, [], .error e⟩ := by
    rw [drain, handle_withEvents, hhandle]
    rfl
  rw [hdrain]
  refine ⟨?_, by rintro ⟨⟩, fun e' he' => ?_⟩
  · show syncWithin? _ (events.length + 1) = _
    rw [syncWithin?, handleNext?_withEvents, hhandle]
    rfl
  · obtain rfl := Except.error.inj he'
    refine ⟨[], event, events, r.withEvents (event :: events), rfl, .nil _, ?_, rfl⟩
    rw [handle_withEvents, hhandle]
    rfl

/-- The first event is handled, and the others are drained from where it leads. -/
theorem drains_cons {next : Router} {heard : List Call} {landed : Bool}
    (h : r.handle event = ⟨next, heard, .ok landed⟩)
    (hrest : Drains (next.withEvents events) ((next.withEvents events).drain events)) :
    Drains (r.withEvents (event :: events)) (r.drain (event :: events)) := by
  have hfirst : (r.withEvents (event :: events)).handle event =
      ⟨next.withEvents (event :: events), heard, .ok landed⟩ := by
    rw [handle_withEvents, h]
    rfl
  have hdrain : r.drain (event :: events) = ((next.withEvents events).drain events).behind heard := by
    rw [drain, handle_withEvents, h]
    rfl
  rw [hdrain]
  generalize (next.withEvents events).drain events = rest at hrest
  refine ⟨?_, fun hok => ?_, fun e he => ?_⟩
  · show syncWithin? _ (events.length + 1) = _
    rw [syncWithin?, handleNext?_withEvents, h]
    exact congrArg (Option.map (Outcome.behind heard)) hrest.ends
  · obtain ⟨reached, hhandles, hrouter⟩ := hrest.ok hok
    exact ⟨_, .cons hfirst (hhandles.withEvents (event :: events)), hrouter⟩
  · obtain ⟨before, failed, after, reached, hevents, hhandles, hfailed, hrouter⟩ := hrest.error e he
    refine ⟨event :: before, failed, after, reached.withEvents (event :: events),
      congrArg _ hevents, .cons hfirst (hhandles.withEvents _), ?_, hrouter⟩
    rw [handle_withEvents, hfailed]
    rfl

end Cons

/-- Handling any events is an ordered drain of them. -/
theorem drains_drain (r : Router) (events : List HistoryEvent) :
    Drains (r.withEvents events) (r.drain events) := by
  induction events generalizing r with
  | nil => exact ⟨rfl, fun _ => ⟨r.withEvents [], .nil _, rfl⟩, by rintro e ⟨⟩⟩
  | cons event events ih =>
    cases hresult : (r.handle event).result with
    | error e => exact drains_of_error hresult
    | ok landed =>
      have hstep : r.handle event =
          ⟨(r.handle event).router, (r.handle event).heard, .ok landed⟩ := by
        rw [← hresult]
      exact drains_cons hstep (ih ((r.handle event).router.withEvents events))

/-- **Handling the waiting events is an ordered drain that stops at the first failure.**  It ends
after no more events than are waiting; without failure all of them have been handled in order and
none is left; a failure loses its event, changes nothing else and leaves those behind it. -/
theorem drains_sync (r : Router) :
    Drains r r.sync ∧
      ∀ (s : Router) (event : HistoryEvent),
        (s.handle event).router.history.events = s.history.events :=
  ⟨drains_drain r r.history.events, events_handle⟩

end Router
end Routing
