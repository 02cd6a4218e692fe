/-
# Histories

A history is a list of visited URLs, one of which is the current one, and a queue
of what happened to it from outside.  Pushing a URL drops the entries behind the
current one.  Moving through the entries queues an event, as the user may move
too; a move beyond either end does nothing.

A URL is resolved against the current one.  Nothing happens if it is no reference
or begins with `//`, which would lead to another host.
-/

import Routing.Url.Reference

namespace Routing

/-- Something that happened to a history from outside. -/
inductive HistoryEvent where
  /-- The user moved to an entry with the URL. -/
  | pop (url : Text)
  /-- The user asks for a navigation to the URL. -/
  | push (url : Text)
deriving DecidableEq

/-- Visited URLs. -/
structure History where
  /-- The entries, the oldest first. -/
  entries : List Url
  /-- The place of the current entry. -/
  index : Nat
  /-- The events that are waiting, the oldest first. -/
  events : List HistoryEvent
  /-- There is a current entry. -/
  index_lt : index < entries.length

namespace History

/-- The URL that the first entry is resolved against. -/
def origin : Url :=
  { scheme := "memory".toList, path := .segmented [[]], query := none, fragment := none }

/-- A history with one entry, which is `/` if the text is no reference. -/
def new (start : Text) : History :=
  { entries := [(origin.join start).getD origin], index := 0, events := [], index_lt := by simp }

/-- The current entry. -/
def current (h : History) : Url := h.entries.get ⟨h.index, h.index_lt⟩

/-- The current URL from its path on. -/
def currentPath (h : History) : Text := h.current.pathAndAfter

/-- How many entries there are. -/
def length (h : History) : Nat := h.entries.length

/-- There is an entry before the current one. -/
def canGoBack (h : History) : Bool := 0 < h.index

/-- There is an entry behind the current one. -/
def canGoForward (h : History) : Bool := h.index + 1 < h.entries.length

/-- Adds an event to the queue. -/
def emit (h : History) (event : HistoryEvent) : History :=
  { h with events := h.events ++ [event] }

/-- Takes the oldest event from the queue. -/
def poll (h : History) : Option HistoryEvent × History :=
  match h.events with
  | [] => (none, h)
  | event :: events => (some event, { h with events })

/-- The entry that a reference leads to. -/
def resolve? (h : History) (url : Text) : Option Url :=
  match url with
  | '/' :: '/' :: _ => none
  | _ => h.current.join url

/-- Makes another entry the current one and queues the event. -/
def moveTo (h : History) (index : Nat) (index_lt : index < h.entries.length) : History :=
  let moved := { h with index, index_lt }
  moved.emit (.pop moved.currentPath)

/-- Moves by a number of entries, backwards if it is negative. -/
def go (h : History) (delta : Int) : History :=
  let target : Int := h.index + delta
  if delta = 0 ∨ target < 0 then h
  else if index_lt : target.toNat < h.entries.length then h.moveTo target.toNat index_lt
  else h

/-- Moves to the entry before the current one. -/
def back (h : History) : History := h.go (-1)

/-- Moves to the entry behind the current one. -/
def forward (h : History) : History := h.go 1

/-- Adds an entry behind the current one, which becomes the current one. -/
def push (h : History) (url : Text) : History :=
  match h.resolve? url with
  | none => h
  | some entry =>
    { h with
      entries := h.entries.take (h.index + 1) ++ [entry]
      index := h.index + 1
      index_lt := by
        have := h.index_lt
        simp only [List.length_append, List.length_take, List.length_cons, List.length_nil]
        omega }

/-- Overwrites the current entry. -/
def replace (h : History) (url : Text) : History :=
  match h.resolve? url with
  | none => h
  | some entry =>
    { h with
      entries := h.entries.set h.index entry
      index_lt := by rw [List.length_set]; exact h.index_lt }

end History
end Routing
