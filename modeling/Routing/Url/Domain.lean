/-
# Domains

A domain is a list of labels with points between them.  To read it, its characters
are mapped to what they count as, the labels are decoded, and each has to be a label
that can be told apart from others.
-/

import Routing.Url.Domain.Direction
import Routing.Url.Domain.Label

namespace Routing
namespace Domain

/-- The labels of a domain, in the characters that they count as. -/
def read? (s : Text) : Option (List Text) :=
  match s.mapM mapChar? with
  | none => none
  | some images =>
    match (Text.splitBy (· == '.') (Composition.compose images.flatten)).mapM readLabel? with
    | some labels => if Direction.isOrderlyDomain labels then some labels else none
    | none => none

end Domain
end Routing
