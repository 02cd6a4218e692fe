/-
# Runs of a router

A router is used by its callers, and by users who move through its history behind its back.  What
either does is an operation (`Op`), and a run is a list of operations.  An operation of a caller
answers what the router returns; a step of the history answers the event that it takes.

What holds of a router at first and is kept by each operation holds after a run (`run_induction`).
A loop of the router over its events is a recursion of its own, with a lemma of its own
(`Router.sameSetup_drain`), since it stops early at an event that fails.
-/

import Routing.Router

namespace Routing

/-- What is done to a history directly. -/
inductive HistoryStep where
  /-- Adds an entry. -/
  | push (url : Text)
  /-- Overwrites the current entry. -/
  | replace (url : Text)
  /-- Moves by a number of entries. -/
  | go (delta : Int)
  /-- Moves back by one entry. -/
  | back
  /-- Moves forward by one entry. -/
  | forward
  /-- Queues an event. -/
  | emit (event : HistoryEvent)
  /-- Takes the oldest event. -/
  | poll

/-- The event that a step takes, and the history after it. -/
def HistoryStep.perform : HistoryStep → History → Option HistoryEvent × History
  | push url, h => (none, h.push url)
  | replace url, h => (none, h.replace url)
  | go delta, h => (none, h.go delta)
  | back, h => (none, h.back)
  | forward, h => (none, h.forward)
  | emit event, h => (none, h.emit event)
  | poll, h => h.poll

/-- What is done to a router. -/
inductive Op where
  /-- Goes to a target with a new entry. -/
  | push (target : NavigationTarget)
  /-- Goes to a target in place of the current entry. -/
  | replace (target : NavigationTarget)
  /-- Moves back by one entry. -/
  | back
  /-- Moves forward by one entry. -/
  | forward
  /-- Moves by a number of entries. -/
  | go (delta : Int)
  /-- Handles an event. -/
  | handle (event : HistoryEvent)
  /-- Handles the events that are waiting. -/
  | sync
  /-- Adds a listener. -/
  | subscribe
  /-- Removes a listener. -/
  | unsubscribe (id : Nat)
  /-- Does something to the history directly. -/
  | history (step : HistoryStep)

/-- What an operation answers. -/
inductive Reply where
  /-- The result of a navigation. -/
  | navigated (result : Except NavigationError Bool)
  /-- The result of handling events. -/
  | synced (result : Except NavigationError Unit)
  /-- The number of a listener. -/
  | subscribed (id : Nat)
  /-- There was a listener. -/
  | unsubscribed (found : Bool)
  /-- The event that was taken from the history. -/
  | stepped (event : Option HistoryEvent)

/-- An outcome with another result. -/
def Outcome.map {α β : Type} (f : α → β) (o : Outcome α) : Outcome β :=
  ⟨o.router, o.heard, f o.result⟩

namespace Op

/-- Performs an operation. -/
def perform (r : Router) : Op → Outcome Reply
  | push target => (r.push target).map .navigated
  | replace target => (r.replace target).map .navigated
  | back => r.back.map .synced
  | forward => r.forward.map .synced
  | go delta => (r.go delta).map .synced
  | handle event => (r.handle event).map .navigated
  | sync => r.sync.map .synced
  | subscribe => r.subscribe.map .subscribed
  | unsubscribe id => (r.unsubscribe id).map .unsubscribed
  | history step =>
    let moved := step.perform r.history
    ⟨{ r with history := moved.2 }, [], .stepped moved.1⟩

/-- The operation is one of a caller who leaves events to the router. -/
def IsOwn : Op → Prop
  | .handle _ | .history _ => False
  | _ => True

/-- The operation is one of a caller, or a move of a user through the history. -/
def IsOwnOrMove : Op → Prop
  | .history (.go _) | .history .back | .history .forward => True
  | op => op.IsOwn

/-- The operation takes the router to another place by recording it. -/
def Lands (r : Router) (op : Op) : Prop := (op.perform r).result = .navigated (.ok true)

end Op

namespace Router

/-- The router after a run. -/
def run (r : Router) : List Op → Router
  | [] => r
  | op :: ops => (op.perform r).router.run ops

/-- No navigation of a run lands while an event is waiting. -/
def Settles (r : Router) : List Op → Prop
  | [] => True
  | op :: ops =>
    (op.Lands r → r.history.events = []) ∧ (op.perform r).router.Settles ops

/-- The routes and the configuration are the same. -/
def SameSetup (r r' : Router) : Prop := r'.table = r.table ∧ r'.config = r.config

/-- A router has its own setup. -/
theorem SameSetup.refl (r : Router) : r.SameSetup r := ⟨rfl, rfl⟩

/-- Setups can be compared step by step. -/
theorem SameSetup.trans {r r' r'' : Router} (h : r.SameSetup r') (h' : r'.SameSetup r'') :
    r.SameSetup r'' := ⟨h'.1.trans h.1, h'.2.trans h.2⟩

/-- A navigation changes the location, the history and nothing of the setup. -/
theorem sameSetup_navigateTo (r : Router) (target : NavigationTarget) (recording : Recording) :
    r.SameSetup (r.navigateTo target recording).router := by
  unfold navigateTo
  split
  · exact .refl r
  · unfold navigate
    split
    · split <;> exact .refl r
    · exact ⟨rfl, rfl⟩

/-- Handling an event changes nothing of the setup. -/
theorem sameSetup_handle (r : Router) (event : HistoryEvent) :
    r.SameSetup (r.handle event).router := by
  cases event with
  | pop url => exact sameSetup_navigateTo r _ _
  | push url => exact sameSetup_navigateTo r _ _

/-- Handling events changes nothing of the setup. -/
theorem sameSetup_drain (r : Router) (events : List HistoryEvent) :
    r.SameSetup (r.drain events).router := by
  induction events generalizing r with
  | nil => exact ⟨rfl, rfl⟩
  | cons event events ih =>
    have hstep : r.SameSetup ((r.withEvents events).handle event).router :=
      sameSetup_handle (r.withEvents events) event
    rw [drain]
    dsimp only
    split
    · exact hstep
    · exact hstep.trans (ih _)

/-- **No operation changes the routes or the configuration.** -/
theorem sameSetup_perform (r : Router) (op : Op) : r.SameSetup (op.perform r).router := by
  have hgo (delta : Int) : r.SameSetup (r.go delta).router :=
    sameSetup_drain { r with history := r.history.go delta } _
  cases op with
  | push target => exact sameSetup_navigateTo r target .push
  | replace target => exact sameSetup_navigateTo r target .replace
  | back => exact hgo (-1)
  | forward => exact hgo 1
  | go delta => exact hgo delta
  | handle event => exact sameSetup_handle r event
  | sync => exact sameSetup_drain r _
  | subscribe => exact ⟨rfl, rfl⟩
  | unsubscribe id => exact ⟨rfl, rfl⟩
  | history step => exact ⟨rfl, rfl⟩

/-- What each operation keeps, a run keeps. -/
theorem run_induction {P : Router → Prop} {ops : List Op} {r : Router} (h : P r)
    (hstep : ∀ op ∈ ops, ∀ r, P r → P (op.perform r).router) : P (r.run ops) := by
  induction ops generalizing r with
  | nil => exact h
  | cons op ops ih =>
    exact ih (hstep op List.mem_cons_self r h) fun op hop => hstep op (List.mem_cons_of_mem _ hop)

/-- **No run changes the routes or the configuration.** -/
theorem sameSetup_run (r : Router) (ops : List Op) : r.SameSetup (r.run ops) :=
  run_induction (P := r.SameSetup) (.refl r) fun op _ s h => h.trans (sameSetup_perform s op)

end Router
end Routing
