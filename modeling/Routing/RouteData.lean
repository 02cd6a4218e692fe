/-
# Data of routes

What a URL carries besides the route that it belongs to.
-/

import Routing.Dictionary
import Routing.Value

namespace Routing

/-- The data that a URL carries. -/
structure RouteData where
  /-- The values of the parameters. -/
  params : Dictionary Value
  /-- The pairs of the query. -/
  search : Dictionary Text
  /-- The text behind `#`; empty without one. -/
  hash : Text

/-- No parameters, no pairs and no hash. -/
def RouteData.empty : RouteData := ⟨Dictionary.empty, Dictionary.empty, []⟩

end Routing
