/-
# What an app collects

An app is given routes and groups call by call (`App.Call`).  It keeps the routes outside of groups
in one group, and each group that is mounted as another one, so what is registered comes in batches
(`App.batches`), in another order than that of the calls (`perm_registrations`).  After any calls,
the groups of the app hold the batches (`collects_ofCalls`).

A call is only ever added at the end, so the groups after many calls follow from those after one
call less, by induction on the calls from their end.  Taking the batches apart from the calls loses
the order between a route and a group, and that alone.
-/

import Mathlib.Data.List.Forall2
import Routing.Proofs.Group

namespace Routing
namespace App

/-- What is given to an app. -/
inductive Call where
  /-- A route outside of groups. -/
  | route (r : Registration)
  /-- A group, with what is added to it behind its segment. -/
  | mount (base : Segment) (rs : List Registration)

namespace Call

/-- Gives a route or a group to an app. -/
def perform (a : App) : Call → App
  | route r => a.route r.name r.segments
  | mount base rs => a.mount ((Group.new base).addAll rs)

/-- What a call registers, in order. -/
def registrations : Call → List Registration
  | route r => [r]
  | mount base rs => rs.map (Registration.behind [base])

/-- What a call registers outside of groups. -/
def single : Call → List Registration
  | route r => [r]
  | mount _ _ => []

/-- What a call registers in a group. -/
def grouped? : Call → Option (List Registration)
  | route _ => none
  | mount base rs => some (rs.map (Registration.behind [base]))

end Call

/-- The app that calls make of one without routes. -/
def ofCalls (config : RouterConfig) (calls : List Call) : App :=
  calls.foldl Call.perform (new config)

/-- What calls register, in the order of the calls. -/
def registrations (calls : List Call) : List Registration := calls.flatMap Call.registrations

/-- What calls register, batch by batch: the routes outside of groups, and then one group after the
other. -/
def batches (calls : List Call) : List (List Registration) :=
  calls.flatMap Call.single :: calls.filterMap Call.grouped?

/-- **Nothing is lost or doubled** by going through batches.  The batches hold the same
registrations, in another order. -/
theorem perm_registrations (calls : List Call) :
    (registrations calls).Perm (batches calls).flatten := by
  induction calls with
  | nil => exact .nil
  | cons call calls ih =>
    have hcall := ih.append_left call.registrations
    cases call with
    | route r => exact hcall
    | mount base rs => exact hcall.trans (List.perm_append_comm_assoc _ _ _)

/-- The groups of an app hold the batches that calls register. -/
structure Collects (a : App) (calls : List Call) : Prop where
  /-- Nothing stands in front of a route outside of groups. -/
  base : a.root.base = .literal []
  /-- The routes outside of groups. -/
  root : a.root.Collects (calls.flatMap Call.single)
  /-- The groups in the order of mounting. -/
  groups : List.Forall₂ Group.Collects a.groups (calls.filterMap Call.grouped?)

variable {a : App} {calls : List Call}

/-- The groups of an app, the one of its own first, hold its batches. -/
theorem Collects.all (h : a.Collects calls) :
    List.Forall₂ Group.Collects (a.root :: a.groups) (batches calls) := .cons h.root h.groups

/-- An app without routes has collected nothing. -/
theorem collects_new (config : RouterConfig) : (new config).Collects [] :=
  ⟨rfl, Group.collects_new _, .nil⟩

/-- One more call goes to the group it belongs to, and leaves all others alone. -/
theorem Collects.perform (h : a.Collects calls) (call : Call) :
    (call.perform a).Collects (calls ++ [call]) := by
  cases call with
  | route r =>
    refine ⟨(Group.base_add _ _ _).trans h.base, ?_, ?_⟩
    · rw [List.flatMap_append]
      exact h.root.add_bare h.base r
    · rw [List.filterMap_append, List.filterMap_cons_none rfl, List.filterMap_nil, List.append_nil]
      exact h.groups
  | mount base rs =>
    refine ⟨h.base, ?_, ?_⟩
    · rw [List.flatMap_append, List.flatMap_singleton]
      exact (List.append_nil _).symm ▸ h.root
    · rw [List.filterMap_append]
      exact List.rel_append h.groups (.cons (Group.collects_addAll_new base rs) .nil)

/-- **After any calls, the groups of the app hold the batches.** -/
theorem collects_ofCalls (config : RouterConfig) (calls : List Call) :
    (ofCalls config calls).Collects calls := by
  have hrun (rest : List Call) : ∀ (a : App) (before : List Call), a.Collects before →
      (rest.foldl Call.perform a).Collects (before ++ rest) := by
    induction rest with
    | nil =>
      intro a before h
      rwa [List.append_nil]
    | cons call rest ih =>
      intro a before h
      rw [List.append_cons]
      exact ih _ _ (h.perform call)
  exact hrun calls _ [] (collects_new config)

end App
end Routing
