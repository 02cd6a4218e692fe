/-
# Routes that are inserted one after the other

Routes with different names make up a table with them behind the routes that it had
(`foldlM_insert_of_nodup`).  Otherwise the first route is refused whose name a route before it has
(`foldlM_insert_of_not_nodup`).  The name of a route leads to the route, and no other name leads
anywhere (`get_of_mem`, `get_of_not_mem`).

An insertion looks at the names in the table alone, and the table is told by its routes
(`eq_of_routes_eq`), since that their names differ is a proof and no data.  Insertions one after
the other are followed by induction on the routes, with the table growing at its end.
-/

import Routing.Proofs.RouteTable

namespace Routing
namespace RouteTable

/-- The name is the first one in a list that stands there before. -/
def IsFirstRepeated (names : List Text) (name : Text) : Prop :=
  ∃ before after, names = before ++ name :: after ∧ before.Nodup ∧ name ∈ before

variable {t : RouteTable} {r : Route} {routes : List Route}

/-- Tables with the same routes are equal. -/
theorem eq_of_routes_eq {t' : RouteTable} (h : t.routes = t'.routes) : t = t' := by
  cases t
  cases t'
  cases h
  rfl

/-- A route whose name is taken is refused, and the refusal tells the name. -/
theorem insert_of_mem (h : r.name ∈ t.names) : t.insert r = .error (.duplicateRoute r.name) :=
  dif_pos h

/-- A route with another name than the others is inserted behind them. -/
theorem exists_insert (h : r.name ∉ t.names) (routes : List Route) :
    ∃ t', t.insert r = .ok t' ∧ t'.routes ++ routes = t.routes ++ r :: routes :=
  ⟨_, dif_neg h, List.append_cons .. |>.symm⟩

/-- **Routes with different names are inserted in order.** -/
theorem foldlM_insert_of_nodup (h : ((t.routes ++ routes).map Route.name).Nodup) :
    routes.foldlM insert t = .ok ⟨t.routes ++ routes, h⟩ := by
  induction routes generalizing t with
  | nil => exact congrArg Except.ok (eq_of_routes_eq (List.append_nil _).symm)
  | cons r routes ih =>
    have hname : r.name ∉ t.names := fun hmem => by
      rw [List.map_append, List.map_cons] at h
      exact (List.nodup_append.mp h).2.2 _ hmem _ List.mem_cons_self rfl
    obtain ⟨t', hinsert, hroutes⟩ := exists_insert hname routes
    rw [List.foldlM_cons, hinsert]
    exact (ih (hroutes ▸ h)).trans (congrArg Except.ok (eq_of_routes_eq hroutes))

/-- **The first route whose name is taken is refused.**  It is the first one in the order of
insertion, and the names of the table before count as well. -/
theorem foldlM_insert_of_not_nodup (h : ¬((t.routes ++ routes).map Route.name).Nodup) :
    ∃ name, IsFirstRepeated ((t.routes ++ routes).map Route.name) name ∧
      routes.foldlM insert t = .error (.duplicateRoute name) := by
  induction routes generalizing t with
  | nil =>
    rw [List.append_nil] at h
    exact absurd t.namesDistinct h
  | cons r routes ih =>
    rw [List.foldlM_cons]
    by_cases hname : r.name ∈ t.names
    · rw [insert_of_mem hname]
      exact ⟨r.name, ⟨t.names, routes.map Route.name, List.map_append, t.namesDistinct, hname⟩, rfl⟩
    · obtain ⟨t', hinsert, hroutes⟩ := exists_insert hname routes
      rw [hinsert, ← hroutes]
      exact ih (hroutes ▸ h)

/-- The name of a route leads to the route. -/
theorem get_of_mem (h : r ∈ t.routes) : t.get r.name = .ok r := by
  unfold get
  split
  case h_1 found hfound =>
    have hname : found.name = r.name := by simpa using List.find?_some hfound
    rw [eq_of_name_eq (List.mem_of_find?_eq_some hfound) h hname]
  case h_2 hnone => exact absurd (List.find?_eq_none.mp hnone r h) (by simp)

/-- Any other name is unknown. -/
theorem get_of_not_mem {name : Text} (h : name ∉ t.names) :
    t.get name = .error (.unknownRoute name) := by
  unfold get
  split
  case h_1 found hfound =>
    have hname : found.name = name := by simpa using List.find?_some hfound
    exact absurd (hname ▸ List.mem_map_of_mem (List.mem_of_find?_eq_some hfound)) h
  case h_2 => rfl

end RouteTable
end Routing
