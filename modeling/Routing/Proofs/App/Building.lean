/-
# What an app builds

An app puts its batches into a table, one group after the other.  If all routes compile and have
different names, the table has them in the order of the batches (`build_ofCalls`).

Otherwise the batches are gone through up to the first group in which a route does not compile
(`IsFirstFailing`).  That route is reported, unless a name occurs twice in the groups before
(`build_failing`).  So the route is not always the first one in the order of the calls that does not
compile (`not_reportsEarliest`).

Building goes through the groups and stops at the first one with a failure.  Before that group all
routes are inserted one by one, so the table is that of a single list of routes, and what can go
wrong with it is a matter of their names (`Routing.Proofs.RouteTable.Insertion`).  The two kinds of
failure are therefore told apart by the batches before the group alone
(`IsFirstFailing.build_cases`).
-/

import Routing.Proofs.App
import Routing.Proofs.Pattern.Repetition
import Routing.Proofs.RouteTable.Insertion

namespace Routing

namespace Registration

variable {rs : List Registration}

/-- Routes that compile and have different names make up a table. -/
theorem exists_table (h : ∀ r ∈ rs, r.Compiles) (hnames : (rs.map name).Nodup) :
    ∃ t, (rs.filterMap route?).foldlM RouteTable.insert RouteTable.empty = .ok t ∧
      List.Forall₂ Registers rs t.routes := by
  have hregisters := forall₂_registers h
  have hnodup : ((RouteTable.empty.routes ++ rs.filterMap route?).map Route.name).Nodup :=
    (names_eq_of_registers hregisters).symm ▸ hnames
  exact ⟨_, RouteTable.foldlM_insert_of_nodup hnodup, hregisters⟩

/-- Of routes that compile, the first one whose name occurs before is refused. -/
theorem exists_refused (h : ∀ r ∈ rs, r.Compiles) (hnames : ¬(rs.map name).Nodup) :
    ∃ name, RouteTable.IsFirstRepeated (rs.map Registration.name) name ∧
      (rs.filterMap route?).foldlM RouteTable.insert RouteTable.empty =
        .error (.duplicateRoute name) := by
  have heq : (RouteTable.empty.routes ++ rs.filterMap route?).map Route.name = rs.map name :=
    names_eq_of_registers (forall₂_registers h)
  rw [← heq] at hnames ⊢
  exact RouteTable.foldlM_insert_of_not_nodup hnames

end Registration

namespace App

section Groups

variable {groups : List Group} {batches : List (List Registration)}

/-- A group without failure is put into the table route by route. -/
theorem insertGroup_of_finished {g : Group} (h : g.failure = none) (t : RouteTable) :
    insertGroup t g = (g.routes.foldlM RouteTable.insert t).mapError .navigation := by
  rw [insertGroup, Group.finish, h]
  rfl

/-- A group with a failure stops building with it, whatever the table holds. -/
theorem insertGroup_of_failed {g : Group} {e : AppError} (h : g.failure = some e)
    (t : RouteTable) : insertGroup t g = .error e := by
  rw [insertGroup, Group.finish, h]
  rfl

/-- Groups without failures are put into the table route by route. -/
theorem foldlM_insertGroup (h : ∀ g ∈ groups, g.failure = none) (t : RouteTable) :
    groups.foldlM insertGroup t =
      ((groups.flatMap Group.routes).foldlM RouteTable.insert t).mapError .navigation := by
  induction groups generalizing t with
  | nil => rfl
  | cons g groups ih =>
    obtain ⟨hg, hgroups⟩ := List.forall_mem_cons.mp h
    rw [List.foldlM_cons, List.flatMap_cons, List.foldlM_append, insertGroup_of_finished hg]
    cases g.routes.foldlM RouteTable.insert t with
    | error e => rfl
    | ok t' => exact ih hgroups t'

/-- The routes of the groups are those of the batches, one after the other. -/
theorem routes_of_collects (h : List.Forall₂ Group.Collects groups batches) :
    groups.flatMap Group.routes = batches.flatten.filterMap Registration.route? := by
  induction h with
  | nil => rfl
  | cons hg _ ih => rw [List.flatMap_cons, List.flatten_cons, List.filterMap_append, hg.routes, ih]

/-- If all routes compile, no group has a failure. -/
theorem finished_of_compiles (h : List.Forall₂ Group.Collects groups batches)
    (hcompiles : ∀ r ∈ batches.flatten, r.Compiles) : ∀ g ∈ groups, g.failure = none := by
  induction h with
  | nil => simp
  | cons hg _ ih =>
    obtain ⟨hbatch, hbatches⟩ := List.forall_mem_append.mp hcompiles
    exact List.forall_mem_cons.mpr ⟨hg.failure_eq_none_iff.mpr hbatch, ih hbatches⟩

end Groups

variable {config : RouterConfig} {calls : List Call}

/-- If all routes compile, building is inserting them. -/
theorem build_of_compiles (h : ∀ r ∈ (batches calls).flatten, r.Compiles) :
    (ofCalls config calls).build =
      (((batches calls).flatten.filterMap Registration.route?).foldlM RouteTable.insert
        RouteTable.empty).mapError .navigation := by
  have hcollects := (collects_ofCalls config calls).all
  rw [build, foldlM_insertGroup (finished_of_compiles hcollects h), routes_of_collects hcollects]

/-- The route is the first one that does not compile when the batches are gone through in order.
The batches before its own register the routes `earlier`. -/
structure IsFirstFailing (calls : List Call) (earlier : List Registration) (r : Registration)
    (cause : CompileError) : Prop where
  /-- The place of the route, and what compiles before it. -/
  place : ∃ before front back after, batches calls = before ++ (front ++ r :: back) :: after ∧
    earlier = before.flatten ∧ ∀ other ∈ earlier ++ front, other.Compiles
  /-- Its failure. -/
  failed : Pattern.compile r.segments = .error cause

variable {earlier : List Registration} {r : Registration} {cause : CompileError}

/-- Building goes as far as the group of the first failing route, and then reports the route. -/
theorem IsFirstFailing.build_eq (h : IsFirstFailing calls earlier r cause) :
    (ofCalls config calls).build =
      ((earlier.filterMap Registration.route?).foldlM RouteTable.insert
        RouteTable.empty).mapError .navigation >>= fun _ => .error (.route r.name cause) := by
  obtain ⟨before, front, back, after, hbatches, rfl, hcompiles⟩ := h.place
  obtain ⟨hbefore, hfront⟩ := List.forall_mem_append.mp hcompiles
  have hcollects := (collects_ofCalls config calls).all
  rw [hbatches] at hcollects
  obtain ⟨groups, g, more, hgroups, hgroup, hg, -⟩ := exists_of_forall₂_append_cons hcollects
  have hfailure : g.failure = some (.route r.name cause) := by
    rw [hg.failure]
    exact List.findSome?_eq_some_iff.mpr ⟨front, r, back, rfl,
      Registration.failure?_eq_some_iff.mpr ⟨cause, h.failed, rfl⟩,
      fun other hother => Registration.failure?_eq_none_iff.mpr (hfront other hother)⟩
  rw [build, hgroups, List.foldlM_append, foldlM_insertGroup (finished_of_compiles hgroup hbefore),
    routes_of_collects hgroup]
  -- A name that is taken stops building before the group is reached.
  cases (before.flatten.filterMap Registration.route?).foldlM RouteTable.insert
      RouteTable.empty with
  | error e => rfl
  | ok t =>
    show (g :: more).foldlM insertGroup t = _
    rw [List.foldlM_cons, insertGroup_of_failed hfailure]
    rfl

/-- What stands in the batches before compiles. -/
theorem IsFirstFailing.compiles (h : IsFirstFailing calls earlier r cause) :
    ∀ other ∈ earlier, other.Compiles := by
  obtain ⟨before, front, back, after, hbatches, hearlier, hcompiles⟩ := h.place
  exact (List.forall_mem_append.mp hcompiles).1

/-- With different names in the batches before, the route is reported. -/
theorem IsFirstFailing.build_of_nodup (h : IsFirstFailing calls earlier r cause)
    (hnames : (earlier.map Registration.name).Nodup) :
    (ofCalls config calls).build = .error (.route r.name cause) := by
  obtain ⟨t, ht, -⟩ := Registration.exists_table h.compiles hnames
  rw [h.build_eq, ht]
  rfl

/-- With a repeated name in the batches before, that name is reported. -/
theorem IsFirstFailing.build_of_not_nodup (h : IsFirstFailing calls earlier r cause)
    (hnames : ¬(earlier.map Registration.name).Nodup) :
    ∃ name, RouteTable.IsFirstRepeated (earlier.map Registration.name) name ∧
      (ofCalls config calls).build = .error (.navigation (.duplicateRoute name)) := by
  obtain ⟨name, hname, herror⟩ := Registration.exists_refused h.compiles hnames
  rw [h.build_eq, herror]
  exact ⟨name, hname, rfl⟩

/-- Either the route is reported, or a name that occurs twice before its batch. -/
theorem IsFirstFailing.build_cases (h : IsFirstFailing calls earlier r cause)
    (config : RouterConfig) :
    (earlier.map Registration.name).Nodup ∧
        (ofCalls config calls).build = .error (.route r.name cause) ∨
      ∃ name, RouteTable.IsFirstRepeated (earlier.map Registration.name) name ∧
        (ofCalls config calls).build = .error (.navigation (.duplicateRoute name)) := by
  by_cases hnames : (earlier.map Registration.name).Nodup
  · exact .inl ⟨hnames, h.build_of_nodup hnames⟩
  · exact .inr (h.build_of_not_nodup hnames)

/-- The first route in the order of the batches that does not compile. -/
theorem exists_isFirstFailing_of_eq {l l' : List Registration}
    (hflatten : (batches calls).flatten = l ++ r :: l') (hl : ∀ other ∈ l, other.Compiles)
    (hcause : Pattern.compile r.segments = .error cause) :
    ∃ earlier, earlier <+: l ∧ IsFirstFailing calls earlier r cause := by
  obtain ⟨before, front, back, after, hbatches, rfl⟩ := exists_of_flatten_eq_append_cons hflatten
  exact ⟨before.flatten, List.prefix_append _ _,
    ⟨before, front, back, after, hbatches, rfl, hl⟩, hcause⟩

/-- Among routes of which one does not compile, there is a first one in the order of the batches. -/
theorem exists_isFirstFailing (h : ∃ r ∈ registrations calls, ¬r.Compiles) :
    ∃ earlier r cause, IsFirstFailing calls earlier r cause := by
  obtain ⟨r, hr, hfails⟩ := h
  cases hfind : (batches calls).flatten.findSome? Registration.failure? with
  | none =>
    have hnone := List.findSome?_eq_none_iff.mp hfind r ((perm_registrations calls).mem_iff.mp hr)
    exact absurd (Registration.failure?_eq_none_iff.mp hnone) hfails
  | some e =>
    obtain ⟨l, first, l', hflatten, hfirst, hl⟩ := List.findSome?_eq_some_iff.mp hfind
    obtain ⟨cause, hcause, -⟩ := Registration.failure?_eq_some_iff.mp hfirst
    obtain ⟨earlier, -, hearlier⟩ := exists_isFirstFailing_of_eq hflatten
      (fun other hother => Registration.failure?_eq_none_iff.mp (hl other hother)) hcause
    exact ⟨earlier, first, cause, hearlier⟩

/-- An app with a route that does not compile does not build. -/
theorem compiles_of_build {t : RouteTable} (h : (ofCalls config calls).build = .ok t) :
    ∀ r ∈ registrations calls, r.Compiles := by
  by_contra hnot
  obtain ⟨r, hr⟩ := not_forall.mp hnot
  obtain ⟨earlier, r, cause, hfirst⟩ := exists_isFirstFailing ⟨r, Classical.not_imp.mp hr⟩
  obtain ⟨-, hbuild⟩ | ⟨name, -, hbuild⟩ := hfirst.build_cases config
  · cases h.symm.trans hbuild
  · cases h.symm.trans hbuild

/-- The table of an app has its routes batch by batch. -/
theorem registers_of_build {t : RouteTable} (h : (ofCalls config calls).build = .ok t) :
    List.Forall₂ Registration.Registers (batches calls).flatten t.routes := by
  have hcompiles : ∀ r ∈ (batches calls).flatten, r.Compiles := fun r hr =>
    compiles_of_build h r ((perm_registrations calls).mem_iff.mpr hr)
  rw [build_of_compiles hcompiles] at h
  by_cases hnames : ((batches calls).flatten.map Registration.name).Nodup
  · obtain ⟨t', ht', hregisters⟩ := Registration.exists_table hcompiles hnames
    rw [ht'] at h
    exact Except.ok.inj h ▸ hregisters
  · obtain ⟨name, -, herror⟩ := Registration.exists_refused hcompiles hnames
    rw [herror] at h
    cases h

/-- **An app builds just if its routes compile and have different names.**  The table has the routes
batch by batch, each with the pattern of its segments, and only their names lead to routes. -/
theorem build_ofCalls (config : RouterConfig) (calls : List Call) :
    ((∃ t, (ofCalls config calls).build = .ok t) ↔
      (∀ r ∈ registrations calls, r.Compiles) ∧
        ((registrations calls).map Registration.name).Nodup) ∧
    ∀ t, (ofCalls config calls).build = .ok t →
      List.Forall₂ Registration.Registers (batches calls).flatten t.routes ∧
      (∀ route ∈ t.routes, t.get route.name = .ok route) ∧
      ∀ name, name ∉ t.names → t.get name = .error (.unknownRoute name) := by
  have hperm := perm_registrations calls
  have hnames := (hperm.map Registration.name).nodup_iff
  refine ⟨⟨?_, ?_⟩, fun t h => ⟨registers_of_build h, fun route => t.get_of_mem,
    fun name => t.get_of_not_mem⟩⟩
  · rintro ⟨t, h⟩
    have heq := Registration.names_eq_of_registers (registers_of_build h)
    exact ⟨compiles_of_build h, hnames.mpr (heq ▸ t.namesDistinct)⟩
  · rintro ⟨hcompiles, hnodup⟩
    have hcompiles' : ∀ r ∈ (batches calls).flatten, r.Compiles := fun r hr =>
      hcompiles r (hperm.mem_iff.mpr hr)
    obtain ⟨t, ht, -⟩ := Registration.exists_table hcompiles' (hnames.mp hnodup)
    exact ⟨t, by rw [build_of_compiles hcompiles', ht]; rfl⟩

/-- The failure that an app reports is that of the first route in the order of the calls that does
not compile. -/
def ReportsEarliest (config : RouterConfig) (calls : List Call) : Prop :=
  ∀ before r after cause, registrations calls = before ++ r :: after →
    (∀ other ∈ before, other.Compiles) → Pattern.compile r.segments = .error cause →
    (ofCalls config calls).build = .error (.route r.name cause)

/-- **An app with a route that does not compile reports the first one in the order of the batches**,
unless a name occurs twice in the batches before; then it reports the first such name.  Where the
calls are made in the order of the batches, and no name is registered twice, that is the first route
in the order of the calls. -/
theorem build_failing (config : RouterConfig) {calls : List Call}
    (h : ∃ r ∈ registrations calls, ¬r.Compiles) :
    (∃ earlier r cause, IsFirstFailing calls earlier r cause ∧
      ((earlier.map Registration.name).Nodup ∧
          (ofCalls config calls).build = .error (.route r.name cause) ∨
        ∃ name, RouteTable.IsFirstRepeated (earlier.map Registration.name) name ∧
          (ofCalls config calls).build = .error (.navigation (.duplicateRoute name)))) ∧
    (registrations calls = (batches calls).flatten →
      ((registrations calls).map Registration.name).Nodup → ReportsEarliest config calls) := by
  refine ⟨?_, fun horder hnames before r after cause heq hbefore hcause => ?_⟩
  · obtain ⟨earlier, r, cause, hfirst⟩ := exists_isFirstFailing h
    exact ⟨earlier, r, cause, hfirst, hfirst.build_cases config⟩
  · obtain ⟨earlier, hprefix, hfirst⟩ :=
      exists_isFirstFailing_of_eq (horder.symm.trans heq) hbefore hcause
    have hsublist : List.Sublist earlier (registrations calls) :=
      hprefix.sublist.trans (heq ▸ List.sublist_append_left _ _)
    exact hfirst.build_of_nodup (hnames.sublist (hsublist.map _))

/-- A group with a route that does not compile, before such a route outside of groups. -/
def groupFirst : List Call :=
  [.mount (.literal "/m".toList) [⟨"grouped".toList, Pattern.strings [['a'], ['a']]⟩],
    .route ⟨"single".toList, Pattern.strings [['x'], ['x']]⟩]

/-- The other way round, the route outside of groups is the first one in either order. -/
theorem build_failing_reverse :
    (∃ r ∈ registrations groupFirst.reverse, ¬r.Compiles) ∧
      (ofCalls {} groupFirst.reverse).build =
        .error (.route "single".toList (.duplicateParameters [['x']])) := by
  have hfails : ∃ r ∈ registrations groupFirst.reverse, ¬r.Compiles :=
    ⟨⟨"single".toList, Pattern.strings [['x'], ['x']]⟩, List.mem_cons_self, nofun⟩
  refine ⟨hfails, (build_failing {} hfails).2 rfl ?_ [] _ _ _ rfl ?_ rfl⟩
  · decide
  · exact fun other hother => absurd hother List.not_mem_nil

/-- Two routes with one name. -/
def homes : List Registration :=
  [⟨"home".toList, [.literal "/".toList]⟩, ⟨"home".toList, [.literal "/h".toList]⟩]

/-- The two, before a group with a route that does not compile. -/
def takenName : List Call :=
  homes.map .route ++
    [.mount (.literal "/m".toList) [⟨"broken".toList, Pattern.strings [['a'], ['a']]⟩]]

/-- A route outside of groups is reported before one of a group that was mounted earlier, and a name
that is taken before a route of a later group. -/
theorem not_reportsEarliest : ¬ReportsEarliest {} groupFirst ∧ ¬ReportsEarliest {} takenName := by
  constructor
  · intro h
    have hclaimed := h [] _ _ _ rfl (fun other hother => absurd hother List.not_mem_nil) rfl
    have hbuild : (ofCalls {} groupFirst).build =
        .error (.route "single".toList (.duplicateParameters [['x']])) := rfl
    rw [hbuild] at hclaimed
    cases hclaimed
  · intro h
    have hcompiles : ∀ r ∈ homes, r.Compiles := by
      have hok : homes.all fun r => (Pattern.compile r.segments).toOption.isSome := by
        decide +kernel
      intro r hr
      obtain ⟨pattern, hpattern⟩ := Option.isSome_iff_exists.mp (List.all_eq_true.mp hok r hr)
      exact ⟨pattern, toOption_eq_some_iff.mp hpattern⟩
    have hfirst : IsFirstFailing takenName homes _ _ :=
      ⟨⟨[homes], [], [], [], rfl, rfl, by rwa [List.append_nil]⟩, rfl⟩
    obtain ⟨name, -, hbuild⟩ := hfirst.build_of_not_nodup (by decide)
    have hclaimed := h homes _ [] _ rfl hcompiles rfl
    rw [hbuild] at hclaimed
    cases hclaimed

end App
end Routing
