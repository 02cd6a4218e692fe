/-
# Happenings

What happens during a run, as far as it concerns listeners: they are added and removed, and the
router goes from place to place (`Happening`).  Happenings say which calls there are, in order
(`allCalls`), and what one listener hears: where the router is when it is added, and then every
place that the router goes to until it is removed (`heardBy`).  The two agree if no number is
given away twice (`locationsOf_eq_heardBy`).

Both readings are defined by recursion on the happenings from the front, so they are compared by
induction in the same direction.  One listener passes through three states: it is not there yet, it
is there, it has been removed; there is one lemma for each (`locationsOf_eq_heardBy`,
`locationsOf_eq_placesUntil`, `locationsOf_eq_nil`).  That numbers are not given away twice is what
keeps it from coming back after the last.
-/

import Mathlib.Data.List.Nodup
import Routing.Router

namespace Routing

/-- What happens during a run, as far as it concerns listeners. -/
inductive Happening where
  /-- A listener is added while the router is at a location. -/
  | subscribed (id : Nat) (location : Location)
  /-- The listener with the number, if there is one, is removed. -/
  | unsubscribed (id : Nat)
  /-- The router goes to a location. -/
  | moved (location : Location)

namespace Call

/-- The locations that one listener was called with. -/
def locationsOf (id : Nat) (calls : List Call) : List Location :=
  (calls.filter (·.listener == id)).map Call.location

variable {id : Nat}

/-- What is heard in two runs of calls is heard in both one after the other. -/
theorem locationsOf_append (calls calls' : List Call) :
    locationsOf id (calls ++ calls') = locationsOf id calls ++ locationsOf id calls' := by
  rw [locationsOf, List.filter_append, List.map_append]
  rfl

/-- When all listeners are called with a location, one of them hears it as often as its number
stands among them. -/
theorem locationsOf_map (live : List Nat) (location : Location) :
    locationsOf id (live.map (⟨·, location⟩)) = List.replicate (live.count id) location := by
  have hfilter : (live.map (Call.mk · location)).filter (·.listener == id) =
      (live.filter (· == id)).map (⟨·, location⟩) := List.filter_map ..
  rw [locationsOf, hfilter, List.filter_beq, List.map_map, List.map_replicate]
  rfl

end Call

namespace Happening

/-- The listeners behind a happening. -/
def listeners (live : List Nat) : Happening → List Nat
  | subscribed id _ => live ++ [id]
  | unsubscribed id => live.filter (· != id)
  | moved _ => live

/-- The calls that a happening gives rise to. -/
def calls (live : List Nat) : Happening → List Call
  | subscribed id location => [⟨id, location⟩]
  | unsubscribed _ => []
  | moved location => live.map (⟨·, location⟩)

/-- The calls that happenings give rise to. -/
def allCalls (live : List Nat) : List Happening → List Call
  | [] => []
  | h :: hs => h.calls live ++ allCalls (h.listeners live) hs

/-- The number of a listener that is added. -/
def issued? : Happening → Option Nat
  | subscribed id _ => some id
  | _ => none

/-- The numbers of the listeners that are added, in order. -/
def issued (hs : List Happening) : List Nat := hs.filterMap issued?

/-- Where happenings lead from a location. -/
def placeAfter (location : Location) : List Happening → Location
  | [] => location
  | moved location' :: hs => placeAfter location' hs
  | _ :: hs => placeAfter location hs

/-- The happenings fit a router that is at a location. -/
def Follows (location : Location) : List Happening → Prop
  | [] => True
  | subscribed _ location' :: hs => location' = location ∧ Follows location hs
  | unsubscribed _ :: hs => Follows location hs
  | moved location' :: hs => location.fullPath ≠ location'.fullPath ∧ Follows location' hs

/-- The places that happenings lead to until a listener is removed. -/
def placesUntil (id : Nat) : List Happening → List Location
  | [] => []
  | subscribed _ _ :: hs => placesUntil id hs
  | unsubscribed id' :: hs => if id' = id then [] else placesUntil id hs
  | moved location :: hs => location :: placesUntil id hs

/-- What a listener hears: where the router is when it is added, and every place that the router
goes to until it is removed. -/
def heardBy (id : Nat) : List Happening → List Location
  | [] => []
  | subscribed id' location :: hs =>
    if id' = id then location :: placesUntil id hs else heardBy id hs
  | _ :: hs => heardBy id hs

/-- A listener was added, and has not been removed since. -/
def IsLive (id : Nat) (hs : List Happening) : Prop :=
  ∃ before location after, hs = before ++ subscribed id location :: after ∧
    unsubscribed id ∉ after

section Append

variable (live : List Nat) (location : Location) (hs hs' : List Happening)

/-- Happenings in a row give rise to the calls of both, with the listeners that the first ones
leave. -/
theorem allCalls_append :
    allCalls live (hs ++ hs') = allCalls live hs ++ allCalls (hs.foldl listeners live) hs' := by
  induction hs generalizing live with
  | nil => rfl
  | cons h hs ih => rw [List.cons_append, allCalls, allCalls, ih, List.append_assoc]; rfl

/-- Happenings in a row lead on from where the first ones lead. -/
theorem placeAfter_append :
    placeAfter location (hs ++ hs') = placeAfter (placeAfter location hs) hs' := by
  induction hs generalizing location with
  | nil => rfl
  | cons h hs ih => cases h <;> exact ih _

variable {location hs hs'}

/-- Happenings in a row fit a router if the second ones fit where the first ones lead. -/
theorem Follows.append (h : Follows location hs) (h' : Follows (placeAfter location hs) hs') :
    Follows location (hs ++ hs') := by
  induction hs generalizing location with
  | nil => exact h'
  | cons happening hs ih =>
    cases happening with
    | subscribed id location' => exact ⟨h.1, ih h.2 h'⟩
    | unsubscribed id => exact ih h h'
    | moved location' => exact ⟨h.1, ih h.2 h'⟩

end Append

section Moves

variable (live : List Nat) (locations : List Location)

/-- While the router only moves, all listeners are called at every place. -/
theorem allCalls_map_moved :
    allCalls live (locations.map moved) =
      locations.flatMap fun location => live.map (⟨·, location⟩) := by
  induction locations with
  | nil => rfl
  | cons location locations ih =>
    rw [List.map_cons, allCalls, List.flatMap_cons]
    exact congrArg _ ih

/-- Moves leave the listeners as they are. -/
theorem listeners_map_moved : (locations.map moved).foldl listeners live = live := by
  induction locations with
  | nil => rfl
  | cons location locations ih => exact ih

/-- Moves add no listeners. -/
theorem issued_map_moved : issued (locations.map moved) = [] := by
  simp [issued, issued?]

end Moves

section Listener

variable {id : Nat} {live : List Nat} {hs : List Happening}

/-- A listener is there behind a happening and others if it was added by the first and not removed
since, or is there by the others. -/
theorem isLive_cons {h : Happening} :
    IsLive id (h :: hs) ↔
      ((∃ location, h = subscribed id location) ∧ unsubscribed id ∉ hs) ∨ IsLive id hs := by
  constructor
  · rintro ⟨before, location, after, heq, hnot⟩
    cases before with
    | nil =>
      obtain ⟨rfl, rfl⟩ := List.cons.inj heq
      exact .inl ⟨⟨location, rfl⟩, hnot⟩
    | cons first before => exact .inr ⟨before, location, after, (List.cons.inj heq).2, hnot⟩
  · rintro (⟨⟨location, rfl⟩, hnot⟩ | ⟨before, location, after, rfl, hnot⟩)
    · exact ⟨[], location, hs, rfl, hnot⟩
    · exact ⟨h :: before, location, after, rfl, hnot⟩

/-- The listeners behind happenings are those that were there or were added, and have not been
removed since. -/
theorem mem_foldl_listeners :
    id ∈ hs.foldl listeners live ↔ (id ∈ live ∧ unsubscribed id ∉ hs) ∨ IsLive id hs := by
  induction hs generalizing live with
  | nil => simp [IsLive]
  | cons h hs ih =>
    rw [List.foldl_cons, ih, isLive_cons]
    cases h with
    | subscribed id' location => simp [listeners, or_and_right, or_assoc, eq_comm]
    | unsubscribed id' => simp [listeners, not_or, and_assoc]
    | moved location => simp [listeners]

/-- The listeners stay in the order in which they were added. -/
theorem foldl_listeners_sublist (live : List Nat) (hs : List Happening) :
    (hs.foldl listeners live).Sublist (live ++ issued hs) := by
  induction hs generalizing live with
  | nil => simp [issued]
  | cons h hs ih =>
    cases h with
    | subscribed id location =>
      have := ih (live ++ [id])
      rwa [List.append_assoc] at this
    | unsubscribed id => exact (ih _).trans (List.filter_sublist.append_right _)
    | moved location => exact ih live

/-- A listener that is not there and is not added hears nothing. -/
theorem locationsOf_eq_nil (hlive : id ∉ live) (hissued : id ∉ issued hs) :
    Call.locationsOf id (allCalls live hs) = [] := by
  induction hs generalizing live with
  | nil => rfl
  | cons h hs ih =>
    rw [allCalls, Call.locationsOf_append]
    cases h with
    | subscribed id' location =>
      obtain ⟨hne, hissued⟩ := not_or.mp fun h => hissued (List.mem_cons.mpr h)
      have hfirst : Call.locationsOf id (calls live (subscribed id' location)) = [] := by
        simp [calls, Call.locationsOf, Ne.symm hne]
      rw [hfirst, List.nil_append]
      exact ih (by simp [listeners, hlive, hne]) hissued
    | unsubscribed id' =>
      exact ih (fun h => hlive (List.mem_of_mem_filter h)) hissued
    | moved location =>
      have hfirst : Call.locationsOf id (calls live (moved location)) = [] := by
        rw [calls, Call.locationsOf_map, List.count_eq_zero_of_not_mem hlive]
        rfl
      rw [hfirst]
      exact ih hlive hissued

/-- A listener that is there hears the places until it is removed. -/
theorem locationsOf_eq_placesUntil (hnodup : (live ++ issued hs).Nodup) (hlive : id ∈ live) :
    Call.locationsOf id (allCalls live hs) = placesUntil id hs := by
  induction hs generalizing live with
  | nil => rfl
  | cons h hs ih =>
    rw [allCalls, Call.locationsOf_append]
    cases h with
    -- Another listener is added, as this one is there already.
    | subscribed id' location =>
      have hne : id ≠ id' := fun heq => by
        have := (List.nodup_append.mp hnodup).2.2 id hlive id' List.mem_cons_self
        exact this heq
      have hfirst : Call.locationsOf id (calls live (subscribed id' location)) = [] := by
        simp [calls, Call.locationsOf, Ne.symm hne]
      rw [hfirst, List.nil_append]
      refine ih ?_ (List.mem_append_left _ hlive)
      rw [listeners, List.append_assoc]
      exact hnodup
    | unsubscribed id' =>
      have hnodup' : (live.filter (· != id') ++ issued hs).Nodup :=
        hnodup.sublist (List.filter_sublist.append_right _)
      rw [placesUntil]
      split
      case isTrue heq =>
        -- Once removed, it is not added again.
        have hissued : id ∉ issued hs := fun hmem =>
          (List.nodup_append.mp hnodup).2.2 id hlive id hmem rfl
        exact locationsOf_eq_nil (by simp [listeners, heq]) hissued
      case isFalse hne =>
        exact ih hnodup' (by simp [listeners, hlive, Ne.symm hne])
    | moved location =>
      -- It is there once, so it is called once.
      have hcount : live.count id = 1 :=
        List.count_eq_one_of_mem (List.nodup_append.mp hnodup).1 hlive
      rw [calls, Call.locationsOf_map, hcount]
      exact congrArg (location :: ·) (ih hnodup hlive)

/-- A listener that is not there yet hears what it should hear. -/
theorem locationsOf_eq_heardBy (hnodup : (live ++ issued hs).Nodup) (hlive : id ∉ live) :
    Call.locationsOf id (allCalls live hs) = heardBy id hs := by
  induction hs generalizing live with
  | nil => rfl
  | cons h hs ih =>
    rw [allCalls, Call.locationsOf_append]
    cases h with
    | subscribed id' location =>
      have hnodup' : (listeners live (subscribed id' location) ++ issued hs).Nodup := by
        rw [listeners, List.append_assoc]
        exact hnodup
      rw [heardBy]
      split
      case isTrue heq =>
        rw [locationsOf_eq_placesUntil hnodup' (by simp [listeners, heq])]
        simp [calls, Call.locationsOf, heq]
      case isFalse hne =>
        rw [ih hnodup' (by simp [listeners, hlive, Ne.symm hne])]
        simp [calls, Call.locationsOf, hne]
    | unsubscribed id' =>
      exact ih (hnodup.sublist (List.filter_sublist.append_right _))
        fun h => hlive (List.mem_of_mem_filter h)
    | moved location =>
      rw [calls, Call.locationsOf_map, List.count_eq_zero_of_not_mem hlive]
      exact ih hnodup hlive

/-- A listener hears of changes of the place only. -/
theorem Follows.isChain_placesUntil {location : Location} (h : Follows location hs) (id : Nat) :
    (location :: placesUntil id hs).IsChain (·.fullPath ≠ ·.fullPath) := by
  induction hs generalizing location with
  | nil => exact .singleton _
  | cons happening hs ih =>
    cases happening with
    | subscribed id' location' => exact ih h.2
    | unsubscribed id' =>
      rw [placesUntil]
      split
      · exact .singleton _
      · exact ih h
    | moved location' => exact .cons_cons h.1 (ih h.2)

/-- A listener never hears the same URL twice in a row, from the first place on. -/
theorem Follows.isChain_heardBy {location : Location} (h : Follows location hs) (id : Nat) :
    (heardBy id hs).IsChain (·.fullPath ≠ ·.fullPath) := by
  induction hs generalizing location with
  | nil => exact .nil
  | cons happening hs ih =>
    cases happening with
    | subscribed id' location' =>
      rw [heardBy]
      split
      · exact h.1 ▸ h.2.isChain_placesUntil id
      · exact ih h.2
    | unsubscribed id' => exact ih h
    | moved location' => exact ih h.2

/-- The last place that a listener heard of is where happenings lead. -/
theorem getLast?_placesUntil {location : Location} (h : unsubscribed id ∉ hs) :
    (location :: placesUntil id hs).getLast? = some (placeAfter location hs) := by
  induction hs generalizing location with
  | nil => rfl
  | cons happening hs ih =>
    obtain ⟨hne, hnot⟩ := not_or.mp fun hor => h (List.mem_cons.mpr hor)
    cases happening with
    | subscribed id' location' => exact ih hnot
    | unsubscribed id' =>
      rw [placesUntil, if_neg fun heq : id' = id => hne (heq ▸ rfl)]
      exact ih hnot
    | moved location' =>
      rw [placesUntil, List.getLast?_cons_cons]
      exact ih hnot

/-- A listener that has not been removed knows where the router is. -/
theorem Follows.getLast?_heardBy {location : Location} (h : Follows location hs)
    (hissued : (issued hs).Nodup) (hlive : IsLive id hs) :
    (heardBy id hs).getLast? = some (placeAfter location hs) := by
  induction hs generalizing location with
  | nil => simp [IsLive] at hlive
  | cons happening hs ih =>
    cases happening with
    | subscribed id' location' =>
      obtain ⟨hnew, hissued⟩ := List.nodup_cons.mp hissued
      rcases isLive_cons.mp hlive with ⟨⟨l, heq⟩, hnot⟩ | hlive
      · obtain ⟨rfl, rfl⟩ := subscribed.inj heq
        rw [heardBy, if_pos rfl, h.1]
        exact getLast?_placesUntil hnot
      · have hne : id' ≠ id := by
          rintro rfl
          obtain ⟨before, l, after, rfl, -⟩ := hlive
          exact hnew (by simp [issued?])
        rw [heardBy, if_neg hne]
        exact ih h.2 hissued hlive
    | unsubscribed id' =>
      exact ih h hissued (by simpa [isLive_cons] using hlive)
    | moved location' =>
      exact ih h.2 hissued (by simpa [isLive_cons] using hlive)

end Listener
end Happening

end Routing
