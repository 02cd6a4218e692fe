/-
# Route tables

A table holds routes with different names in the order of their registration.  A
URL goes to the first route that decodes it, in that order or from the highest to
the lowest rank; routes of one rank keep their order.
-/

import Routing.Pattern.Rank
import Routing.Route

namespace Routing

/-- How a URL is resolved. -/
inductive MatchStrategy where
  /-- Routes are tried in the order of the table. -/
  | firstMatch
  /-- Routes are tried from the most to the least specific. -/
  | ranked
deriving DecidableEq

/-- Routes with different names. -/
structure RouteTable where
  /-- The routes in the order of their registration. -/
  routes : List Route
  /-- No two routes have the same name. -/
  namesDistinct : (routes.map Route.name).Nodup

namespace RouteTable

/-- The table without routes. -/
def empty : RouteTable := ⟨[], List.nodup_nil⟩

/-- The names of the routes. -/
def names (t : RouteTable) : List Text := t.routes.map Route.name

/-- The table with another route at the end. -/
def insert (t : RouteTable) (r : Route) : Except NavigationError RouteTable :=
  if h : r.name ∈ t.routes.map Route.name then .error (.duplicateRoute r.name)
  else
    .ok
      { routes := t.routes ++ [r]
        namesDistinct := by
          rw [List.map_append, List.map_cons, List.map_nil]
          refine List.nodup_append.mpr ⟨t.namesDistinct, List.nodup_cons.mpr ⟨List.not_mem_nil,
            List.nodup_nil⟩, fun a ha b hb => ?_⟩
          exact fun heq => h (List.mem_singleton.mp hb ▸ heq ▸ ha) }

/-- The route with the name. -/
def get (t : RouteTable) (name : Text) : Except NavigationError Route :=
  match t.routes.find? (·.name == name) with
  | some r => .ok r
  | none => .error (.unknownRoute name)

/-- The routes in the order in which they are tried. -/
def candidates (t : RouteTable) : MatchStrategy → List Route
  | .firstMatch => t.routes
  | .ranked => t.routes.mergeSort fun a b => b.pattern.rank ≤ a.pattern.rank

/-- The first of the routes that decodes the URL, and the data. -/
def firstDecoding (url : Text) (routes : List Route) : Option (Route × RouteData) :=
  routes.findSome? fun r => (r.pattern.decode url).map (r, ·)

/-- The location that a URL points at, if a route decodes it. -/
def resolve (t : RouteTable) (url : Text) (strategy : MatchStrategy) :
    Except NavigationError (Option Location) :=
  match firstDecoding url (t.candidates strategy) with
  | none => .ok none
  | some (r, data) => (r.locate data).map some

end RouteTable
end Routing
