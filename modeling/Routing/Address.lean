/-
# Addresses

The parts of a URL that a pattern looks at: the path, what is searched for, and
the hash.  Every reference is resolved against one fixed origin, so that its path
begins with `/` unless it brings a scheme of its own.

The query lists pairs of a key and a value; of pairs with one key the last one
counts.  The hash is the percent-decoded fragment, or the fragment as it is
written if it does not decode.
-/

import Routing.Dictionary
import Routing.Text.Form
import Routing.Url.Reference

namespace Routing

/-- A reference as patterns see it. -/
structure Address where
  /-- The path, percent-encoded and without dot segments. -/
  path : Text
  /-- The pairs of the query. -/
  search : Dictionary Text
  /-- The text behind `#`; empty without one. -/
  hash : Text

namespace Address

/-- The origin that references are resolved against. -/
def origin : Url :=
  { scheme := "http".toList, path := .segmented [[]], query := none, fragment := none }

/-- The address of a URL. -/
def ofUrl (url : Url) : Address :=
  let fragment := url.fragment.getD []
  { path := url.path.toText
    search := Dictionary.ofList (Form.parse (url.query.getD []))
    hash := (Percent.decode? fragment).getD fragment }

/-- The address that a reference points at; `none` if it is no reference. -/
def read? (s : Text) : Option Address := (origin.join s).map ofUrl

/-- The reference to an address.  A query without pairs and an empty hash are
left out. -/
def render (a : Address) : Text :=
  let query := if a.search.isEmpty then [] else '?' :: Form.render a.search.entries
  let fragment :=
    if a.hash.isEmpty then [] else '#' :: Percent.encode Percent.renderedFragment a.hash
  a.path ++ query ++ fragment

end Address
end Routing
