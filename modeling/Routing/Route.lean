/-
# Routes and locations

A route is a pattern with a name.  A location is a route with data, together with
the URL that the data is rendered to.  The data of a location is what that URL
decodes to, so a parameter has the kind of value that its decoder makes, and data
that the pattern does not know is left out.
-/

import Routing.Pattern.Coding

namespace Routing

/-- A place that a router can be at. -/
structure Location where
  /-- The name of the route. -/
  name : Text
  /-- The path, percent-encoded. -/
  path : Text
  /-- The path with the query and the fragment. -/
  fullPath : Text
  /-- The data that the URL decodes to. -/
  data : RouteData

/-- Why a navigation fails. -/
inductive NavigationError where
  /-- No route has the name. -/
  | unknownRoute (name : Text)
  /-- Another route has the name. -/
  | duplicateRoute (name : Text)
  /-- No route matches the URL. -/
  | noMatch (url : Text)
  /-- The router is at the URL already. -/
  | duplicateNavigation (url : Text)
  /-- The data cannot be written. -/
  | encode (cause : EncodeError)
deriving DecidableEq

namespace NavigationError

/-- The failure in words. -/
def message : NavigationError → String
  | unknownRoute name => "no route named \x60" ++ String.ofList name ++ "\x60"
  | duplicateRoute name => "a route named \x60" ++ String.ofList name ++ "\x60 already exists"
  | noMatch url => "no route matches \x60" ++ String.ofList url ++ "\x60"
  | duplicateNavigation url => "already at \x60" ++ String.ofList url ++ "\x60"
  | encode _ => "failed to encode route"

end NavigationError

/-- A pattern with a name. -/
structure Route where
  /-- The name. -/
  name : Text
  /-- The pattern. -/
  pattern : Pattern

namespace Route

/-- The name and the template. -/
def display (r : Route) : Text := r.name ++ ' ' :: r.pattern.display

/-- The location of the route with the data. -/
def locate (r : Route) (data : RouteData) : Except NavigationError Location :=
  match r.pattern.encodePath data.params with
  | .error e => .error (.encode e)
  | .ok path =>
    let fullPath := Pattern.withPath data path
    match r.pattern.decode fullPath with
    | none => .error (.noMatch fullPath)
    | some data => .ok { name := r.name, path, fullPath, data }

end Route
end Routing
