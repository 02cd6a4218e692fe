/-
# Apps

An app collects routes before they go into a table: single ones, and groups whose
routes share what their patterns begin with.  The table has the single routes
first and then the groups in the order in which they were mounted.

A route that does not compile is reported when the table is built.  Each group
remembers its first failure.
-/

import Routing.Config
import Routing.RouteTable

namespace Routing

/-- Why an app does not build. -/
inductive AppError where
  /-- The pattern of a route does not compile. -/
  | route (name : Text) (cause : CompileError)
  /-- The table or the router fails. -/
  | navigation (cause : NavigationError)
deriving DecidableEq

/-- The failure in words. -/
def AppError.message : AppError → String
  | route name _ => "route \x60" ++ String.ofList name ++ "\x60 failed to compile"
  | navigation cause => cause.message

/-- Routes whose patterns begin with the same segment. -/
structure Group where
  /-- The segment that every pattern begins with. -/
  base : Segment
  /-- The routes that compiled, in order. -/
  routes : List Route
  /-- The first failure. -/
  failure : Option AppError

namespace Group

/-- A group without routes. -/
def new (base : Segment) : Group := { base, routes := [], failure := none }

/-- Compiles the segments behind those of the group and adds the route. -/
def add (g : Group) (name : Text) (segments : List Segment) : Group :=
  match Pattern.compile (g.base :: segments) with
  | .ok pattern => { g with routes := g.routes ++ [⟨name, pattern⟩] }
  | .error e => { g with failure := g.failure.or (some (.route name e)) }

/-- The routes, or the first failure. -/
def finish (g : Group) : Except AppError (List Route) :=
  match g.failure with
  | some e => .error e
  | none => .ok g.routes

end Group

/-- Routes and a configuration. -/
structure App where
  /-- The routes outside of groups. -/
  root : Group
  /-- The groups in the order in which they were mounted. -/
  groups : List Group
  /-- The configuration of the router. -/
  config : RouterConfig

namespace App

/-- An app without routes. -/
def new (config : RouterConfig) : App :=
  { root := Group.new (.literal []), groups := [], config }

/-- Adds a route outside of groups. -/
def route (a : App) (name : Text) (segments : List Segment) : App :=
  { a with root := a.root.add name segments }

/-- Adds a group. -/
def mount (a : App) (g : Group) : App := { a with groups := a.groups ++ [g] }

/-- The table with the routes of a group behind its own. -/
def insertGroup (t : RouteTable) (g : Group) : Except AppError RouteTable := do
  let routes ← g.finish
  (routes.foldlM RouteTable.insert t).mapError .navigation

/-- The table of all routes. -/
def build (a : App) : Except AppError RouteTable :=
  (a.root :: a.groups).foldlM insertGroup RouteTable.empty

end App
end Routing
