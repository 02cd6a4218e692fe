/-
# Routers

A router keeps a location in step with a history.  A navigation leads to a URL or
to a route with data; unless it leads to where the router is, the history records
it, and the listeners are called with the new location in the order of their
subscription.

An operation returns the router after it, the calls that the listeners heard
during it, and its result.  A navigation that fails leaves the router as it was.
-/

import Routing.App
import Routing.History

namespace Routing

/-- Where a navigation leads. -/
inductive NavigationTarget where
  /-- A route with data. -/
  | named (name : Text) (data : RouteData)
  /-- A URL. -/
  | url (url : Text)

/-- A location and how it came about. -/
structure Router where
  /-- The routes. -/
  table : RouteTable
  /-- The visited URLs. -/
  history : History
  /-- How the router works. -/
  config : RouterConfig
  /-- Where the router is. -/
  location : Location
  /-- The numbers of the listeners, in the order of their subscription. -/
  listeners : List Nat
  /-- The number of the next listener. -/
  nextId : Nat

/-- What a listener hears. -/
structure Call where
  /-- The number of the listener. -/
  listener : Nat
  /-- The location that it is called with. -/
  location : Location

/-- What comes of an operation. -/
structure Outcome (α : Type) where
  /-- The router after it. -/
  router : Router
  /-- The calls during it. -/
  heard : List Call
  /-- Its result. -/
  result : α

/-- How the history follows a navigation. -/
inductive Recording where
  /-- With a new entry. -/
  | push
  /-- With another URL for the current entry. -/
  | replace
  /-- Not at all, as it has moved already. -/
  | follow
deriving DecidableEq

/-- Records the URL of a navigation. -/
def Recording.record : Recording → History → Text → History
  | push, h, url => h.push url
  | replace, h, url => h.replace url
  | follow, h, _ => h

namespace Router

/-- A router at the current entry of the history. -/
def new (table : RouteTable) (history : History) (config : RouterConfig) :
    Except NavigationError Router :=
  match table.resolve history.currentPath config.matchStrategy with
  | .error e => .error e
  | .ok none => .error (.noMatch history.currentPath)
  | .ok (some location) =>
    .ok { table, history, config, location, listeners := [], nextId := 0 }

/-- The location of a target. -/
def locate (r : Router) : NavigationTarget → Except NavigationError Location
  | .named name data => (r.table.get name).bind (·.locate data)
  | .url url =>
    match r.table.resolve url r.config.matchStrategy with
    | .error e => .error e
    | .ok none => .error (.noMatch url)
    | .ok (some location) => .ok location

/-- The calls of all listeners with a location. -/
def callsWith (r : Router) (location : Location) : List Call := r.listeners.map (⟨·, location⟩)

/-- Goes to a location. -/
def navigate (r : Router) (location : Location) (recording : Recording) :
    Outcome (Except NavigationError Bool) :=
  if location.fullPath = r.location.fullPath then
    match r.config.onDuplicateNavigation with
    | .ignore => ⟨r, [], .ok false⟩
    | .error => ⟨r, [], .error (.duplicateNavigation location.fullPath)⟩
  else
    ⟨{ r with history := recording.record r.history location.fullPath, location },
      r.callsWith location, .ok true⟩

/-- Goes to a target. -/
def navigateTo (r : Router) (target : NavigationTarget) (recording : Recording) :
    Outcome (Except NavigationError Bool) :=
  match r.locate target with
  | .error e => ⟨r, [], .error e⟩
  | .ok location => r.navigate location recording

/-- Goes to a target with a new entry; false if the router is there already. -/
def push (r : Router) (target : NavigationTarget) : Outcome (Except NavigationError Bool) :=
  r.navigateTo target .push

/-- Goes to a target in place of the current entry; false if the router is there
already. -/
def replace (r : Router) (target : NavigationTarget) : Outcome (Except NavigationError Bool) :=
  r.navigateTo target .replace

/-- Does what an event asks for. -/
def handle (r : Router) : HistoryEvent → Outcome (Except NavigationError Bool)
  | .pop url => r.navigateTo (.url url) .follow
  | .push url => r.navigateTo (.url url) .push

/-- The router with other events waiting. -/
def withEvents (r : Router) (events : List HistoryEvent) : Router :=
  { r with history := { r.history with events } }

/-- Handles events in order up to the first failure; those behind it are left
waiting.  `r` is the router without events. -/
def drain (r : Router) : List HistoryEvent → Outcome (Except NavigationError Unit)
  | [] => ⟨r.withEvents [], [], .ok ()⟩
  | event :: events =>
    let step := (r.withEvents events).handle event
    match step.result with
    | .error e => ⟨step.router, step.heard, .error e⟩
    | .ok _ =>
      let rest := step.router.drain events
      ⟨rest.router, step.heard ++ rest.heard, rest.result⟩

/-- Handles the events of the history. -/
def sync (r : Router) : Outcome (Except NavigationError Unit) := r.drain r.history.events

/-- Moves through the history and follows it. -/
def go (r : Router) (delta : Int) : Outcome (Except NavigationError Unit) :=
  { r with history := r.history.go delta }.sync

/-- Moves back by one entry. -/
def back (r : Router) : Outcome (Except NavigationError Unit) := r.go (-1)

/-- Moves forward by one entry. -/
def forward (r : Router) : Outcome (Except NavigationError Unit) := r.go 1

/-- The URL of a route with data. -/
def encode (r : Router) (name : Text) (data : RouteData) : Except NavigationError Text :=
  (r.table.get name).bind fun route => (route.pattern.encode data).mapError .encode

/-- The location that a URL leads to. -/
def decode (r : Router) (url : Text) : Except NavigationError Location := r.locate (.url url)

/-- Adds a listener, which hears the current location; its number. -/
def subscribe (r : Router) : Outcome Nat :=
  ⟨{ r with listeners := r.listeners ++ [r.nextId], nextId := r.nextId + 1 },
    [⟨r.nextId, r.location⟩], r.nextId⟩

/-- Removes a listener; false if there is none with the number. -/
def unsubscribe (r : Router) (id : Nat) : Outcome Bool :=
  ⟨{ r with listeners := r.listeners.filter (· != id) }, [], r.listeners.contains id⟩

end Router

/-- A router with the routes of an app, at the current entry of the history. -/
def App.run (a : App) (history : History) : Except AppError Router :=
  a.build.bind fun table => (Router.new table history a.config).mapError .navigation

end Routing
