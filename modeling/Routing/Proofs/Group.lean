/-
# What a group registers

A route is registered by a name and segments (`Registration`).  A group puts its own segment in
front of the segments.  It keeps the routes that compile, in order, and the first failure
(`Group.Collects`).

A pattern in front of a group's routes comes to the segments of that pattern in front of each
(`Pattern.compile_spliced`).

Both fields of a group are described by the list of its registrations, in the order in which they
were made: the routes by `filterMap`, the failure by `findSome?`.  Adding one registration adds it
to the end of that list (`Collects.add`), and everything about many registrations follows by
induction on them.  Since both descriptions look at a registration through its name and the result
of compiling it alone, registrations that agree in these can stand for each other (`Alike`).
-/

import Routing.App
import Routing.Proofs.Pattern.Splicing

namespace Routing

/-- A route that is to be registered. -/
structure Registration where
  /-- The name. -/
  name : Text
  /-- What the pattern is made of. -/
  segments : List Segment

namespace Registration

variable {r : Registration}

/-- The pattern compiles. -/
def Compiles (r : Registration) : Prop := ∃ pattern, Pattern.compile r.segments = .ok pattern

/-- The route has the name and the pattern. -/
def Registers (r : Registration) (route : Route) : Prop :=
  route.name = r.name ∧ Pattern.compile r.segments = .ok route.pattern

/-- The route, if its pattern compiles. -/
def route? (r : Registration) : Option Route :=
  (Pattern.compile r.segments).toOption.map (⟨r.name, ·⟩)

/-- The failure, if its pattern does not compile. -/
def failure? (r : Registration) : Option AppError :=
  match Pattern.compile r.segments with
  | .ok _ => none
  | .error e => some (.route r.name e)

/-- The route with other segments in front of its own. -/
def behind (front : List Segment) (r : Registration) : Registration :=
  ⟨r.name, front ++ r.segments⟩

/-- The route of a registration is the one that it registers. -/
theorem route?_eq_some_iff {route : Route} : r.route? = some route ↔ r.Registers route := by
  unfold route? Registers
  rw [Option.map_eq_some_iff]
  constructor
  · rintro ⟨pattern, hpattern, rfl⟩
    exact ⟨rfl, toOption_eq_some_iff.mp hpattern⟩
  · rintro ⟨hname, hpattern⟩
    exact ⟨route.pattern, toOption_eq_some_iff.mpr hpattern, hname ▸ rfl⟩

/-- A registration has no failure just if it compiles. -/
theorem failure?_eq_none_iff : r.failure? = none ↔ r.Compiles := by
  unfold failure? Compiles
  split <;> simp [*]

/-- The failure of a registration tells its name and why it does not compile. -/
theorem failure?_eq_some_iff {e : AppError} :
    r.failure? = some e ↔
      ∃ cause, Pattern.compile r.segments = .error cause ∧ e = .route r.name cause := by
  unfold failure?
  split <;> simp [*, eq_comm]

/-- Routes that compile are registered one by one. -/
theorem forall₂_registers {rs : List Registration} (h : ∀ r ∈ rs, r.Compiles) :
    List.Forall₂ Registers rs (rs.filterMap route?) := by
  induction rs with
  | nil => exact .nil
  | cons r rs ih =>
    obtain ⟨⟨pattern, hpattern⟩, hrest⟩ := List.forall_mem_cons.mp h
    have hregisters : r.Registers ⟨r.name, pattern⟩ := ⟨rfl, hpattern⟩
    rw [List.filterMap_cons_some (route?_eq_some_iff.mpr hregisters)]
    exact .cons hregisters (ih hrest)

/-- Routes have the names that they were registered by. -/
theorem names_eq_of_registers {rs : List Registration} {routes : List Route}
    (h : List.Forall₂ Registers rs routes) : routes.map Route.name = rs.map name := by
  induction h with
  | nil => rfl
  | cons hregisters _ ih => rw [List.map_cons, List.map_cons, hregisters.1, ih]

/-- The two have one name and compile to the same pattern, or fail in the same way. -/
structure Alike (r r' : Registration) : Prop where
  /-- One name. -/
  name : r.name = r'.name
  /-- One result. -/
  compile : Pattern.compile r.segments = Pattern.compile r'.segments

section Alike

variable {r' : Registration} {rs rs' : List Registration}

/-- Registrations that are alike have one route. -/
theorem Alike.route?_eq (h : r.Alike r') : r.route? = r'.route? := by
  rw [route?, route?, h.name, h.compile]

/-- Registrations that are alike have one failure. -/
theorem Alike.failure?_eq (h : r.Alike r') : r.failure? = r'.failure? := by
  rw [failure?, failure?, h.name, h.compile]

/-- Registrations that are alike, pair by pair, have the same routes. -/
theorem filterMap_route?_of_alike (h : List.Forall₂ Alike rs rs') :
    rs.filterMap route? = rs'.filterMap route? := by
  induction h with
  | nil => rfl
  | cons hr _ ih => rw [List.filterMap_cons, List.filterMap_cons, hr.route?_eq, ih]

/-- Registrations that are alike, pair by pair, have the same first failure. -/
theorem findSome?_failure?_of_alike (h : List.Forall₂ Alike rs rs') :
    rs.findSome? failure? = rs'.findSome? failure? := by
  induction h with
  | nil => rfl
  | cons hr _ ih => rw [List.findSome?_cons, List.findSome?_cons, hr.failure?_eq, ih]

end Alike

end Registration

namespace Group

/-- Adds routes one after the other. -/
def addAll (g : Group) (rs : List Registration) : Group :=
  rs.foldl (fun g r => g.add r.name r.segments) g

/-- The group keeps the routes that compile, in order, and the first failure. -/
structure Collects (g : Group) (rs : List Registration) : Prop where
  /-- The routes that compile. -/
  routes : g.routes = rs.filterMap Registration.route?
  /-- The first failure. -/
  failure : g.failure = rs.findSome? Registration.failure?

variable {g : Group} {rs : List Registration}

/-- A new group has collected nothing. -/
theorem collects_new (base : Segment) : (new base).Collects [] := ⟨rfl, rfl⟩

/-- Adding a route does not change the segment of a group. -/
theorem base_add (g : Group) (name : Text) (segments : List Segment) :
    (g.add name segments).base = g.base := by
  unfold add
  split <;> rfl

/-- A route is kept behind the others if it compiles behind the segment of the group, and is left
out otherwise. -/
theorem routes_add (g : Group) (r : Registration) :
    (g.add r.name r.segments).routes = g.routes ++ (r.behind [g.base]).route?.toList := by
  unfold add Registration.route? Registration.behind
  rw [List.singleton_append]
  split
  case h_1 pattern heq => rw [heq]; rfl
  case h_2 e heq => rw [heq]; exact (List.append_nil _).symm

/-- The failure of a route is kept unless there was one before. -/
theorem failure_add (g : Group) (r : Registration) :
    (g.add r.name r.segments).failure = g.failure.or (r.behind [g.base]).failure? := by
  unfold add Registration.failure? Registration.behind
  rw [List.singleton_append]
  split
  case h_1 pattern heq => rw [heq]; exact Option.or_none.symm
  case h_2 e heq => rw [heq]

/-- One more route is kept behind the others; its failure is kept if it is the first. -/
theorem Collects.add (h : g.Collects rs) (r : Registration) :
    (g.add r.name r.segments).Collects (rs ++ [r.behind [g.base]]) where
  routes := by
    rw [routes_add, h.routes, List.filterMap_append]
    cases hroute : (r.behind [g.base]).route? <;> simp [hroute]
  failure := by
    rw [failure_add, h.failure, List.findSome?_append, List.findSome?_singleton]

/-- What a group collects is told by the names and by what compiles. -/
theorem Collects.of_alike {rs' : List Registration} (h : g.Collects rs)
    (halike : List.Forall₂ Registration.Alike rs rs') : g.Collects rs' where
  routes := h.routes.trans (Registration.filterMap_route?_of_alike halike)
  failure := h.failure.trans (Registration.findSome?_failure?_of_alike halike)

/-- Behind an empty literal, a route is what it is on its own. -/
theorem Collects.add_bare (h : g.Collects rs) (hbase : g.base = .literal []) (r : Registration) :
    (g.add r.name r.segments).Collects (rs ++ [r]) := by
  have hadd := h.add r
  rw [hbase] at hadd
  have hbare : (r.behind [.literal []]).Alike r := ⟨rfl, rfl⟩
  have hkept : List.Forall₂ Registration.Alike rs rs := List.forall₂_same.mpr fun _ _ => ⟨rfl, rfl⟩
  exact hadd.of_alike (List.rel_append hkept (.cons hbare .nil))

/-- Routes that are added one after the other are all collected, behind the segment of the group. -/
theorem Collects.addAll (h : g.Collects rs) (more : List Registration) :
    (g.addAll more).Collects (rs ++ more.map (Registration.behind [g.base])) := by
  induction more generalizing g rs with
  | nil => rwa [List.map_nil, List.append_nil]
  | cons r more ih =>
    have hmore := ih (h.add r)
    rw [base_add, List.append_assoc] at hmore
    exact hmore

/-- **A new group collects what is added to it**, behind its own segment. -/
theorem collects_addAll_new (base : Segment) (rs : List Registration) :
    ((new base).addAll rs).Collects (rs.map (Registration.behind [base])) :=
  (collects_new base).addAll rs

/-- A group without failure is one whose routes all compile. -/
theorem Collects.failure_eq_none_iff (h : g.Collects rs) :
    g.failure = none ↔ ∀ r ∈ rs, r.Compiles := by
  rw [h.failure, List.findSome?_eq_none_iff]
  exact forall₂_congr fun r _ => Registration.failure?_eq_none_iff

end Group

namespace Pattern

/-- **A pattern in front comes to its segments in front**, unless these contribute nothing.  What is
compiled is the same pattern, or fails in the same way, and a group behind the pattern has the
routes and the failure that it has behind the segments. -/
theorem compile_spliced {front : List Segment} {p : Pattern} (hp : compile front = .ok p)
    (hsome : ∃ token ∈ front.flatMap Segment.tokens, token ≠ .literal []) :
    (∀ rest, compile (.pattern p :: rest) = compile (front ++ rest)) ∧
    ∀ rs : List Registration,
      let g := (Group.new (.pattern p)).addAll rs
      let flat := (Group.new (.literal [])).addAll (rs.map (Registration.behind front))
      g.routes = flat.routes ∧ g.failure = flat.failure := by
  have hcompile := compile_pattern_cons hp hsome
  refine ⟨hcompile, fun rs => ?_⟩
  have halike : List.Forall₂ Registration.Alike (rs.map (Registration.behind [.pattern p]))
      ((rs.map (Registration.behind front)).map (Registration.behind [.literal []])) := by
    rw [List.map_map, List.forall₂_map_left_iff, List.forall₂_map_right_iff, List.forall₂_same]
    exact fun r _ => ⟨rfl, hcompile r.segments⟩
  have hg := (Group.collects_addAll_new (.pattern p) rs).of_alike halike
  have hflat := Group.collects_addAll_new (.literal []) (rs.map (Registration.behind front))
  exact ⟨hg.routes.trans hflat.routes.symm, hg.failure.trans hflat.failure.symm⟩

/-- A literal without a slash, which goes on behind the pattern, and a name that occurs on both
sides. -/
theorem compile_spliced_seam :
    ∃ p, compile [.literal ['u'], .param ⟨['a'], .string⟩, .literal ['-']] = .ok p ∧
      (∃ token ∈ [.literal ['u'], .param ⟨['a'], .string⟩, .literal ['-']].flatMap Segment.tokens,
        token ≠ .literal []) ∧
      compile [.pattern p, .literal ['s'], .param ⟨['b'], .string⟩] =
        compile [.literal ['u'], .param ⟨['a'], .string⟩, .literal ['-'], .literal ['s'],
          .param ⟨['b'], .string⟩] ∧
      compile [.pattern p, .param ⟨['a'], .integer⟩] = .error (.duplicateParameters [['a']]) := by
  have hsome : ∃ token ∈
      [.literal ['u'], .param ⟨['a'], .string⟩, .literal ['-']].flatMap Segment.tokens,
      token ≠ .literal [] := ⟨.literal ['u'], List.mem_cons_self, by simp⟩
  have hok : (compile
      [.literal ['u'], .param ⟨['a'], .string⟩, .literal ['-']]).toOption.isSome := by
    decide +kernel
  obtain ⟨p, hp⟩ := Option.isSome_iff_exists.mp hok
  obtain ⟨hcompile, -⟩ := compile_spliced (toOption_eq_some_iff.mp hp) hsome
  exact ⟨p, toOption_eq_some_iff.mp hp, hsome, hcompile _, (hcompile _).trans rfl⟩

end Pattern
end Routing
