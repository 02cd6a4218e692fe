/-
# URLs

Of a URL only the parts behind its authority matter here: the path, the query
and the fragment, and the scheme by which further references are read.  An
authority has to be well formed (`Routing.Url.Host`), but it is not kept.

A path is either a list of segments, each written behind a `/`, or
unstructured text, as in `mailto:someone`; no reference but a fragment resolves
against the latter.
-/

import Routing.Text.Percent

namespace Routing

/-- The path of a URL, percent-encoded. -/
inductive UrlPath where
  /-- Segments, each written behind a `/`; none for the empty path. -/
  | segmented (segments : List Text)
  /-- Text without a leading `/` that stands for itself. -/
  | unstructured (text : Text)
deriving DecidableEq

namespace UrlPath

/-- The path as it is written. -/
def toText : UrlPath → Text
  | segmented segments => segments.flatMap ('/' :: ·)
  | unstructured text => text

end UrlPath

/-- A URL without its authority. -/
structure Url where
  /-- The scheme in lower case. -/
  scheme : Text
  /-- The path, with its dot segments resolved. -/
  path : UrlPath
  /-- The text between `?` and `#`, percent-encoded. -/
  query : Option Text
  /-- The text behind `#`, percent-encoded. -/
  fragment : Option Text
deriving DecidableEq

namespace Url

/-- The schemes whose URLs always have a host and treat `\` as `/`. -/
def isSpecial (scheme : Text) : Bool :=
  ["http", "https", "ws", "wss", "ftp", "file"].any (·.toList == scheme)

/-- The scheme of local files. -/
def isFile (scheme : Text) : Bool := scheme == "file".toList

/-- A tab or line break, which does not count in a URL. -/
def isBreak (c : Char) : Bool := c == '\t' || c == '\n' || c == '\r'

/-- The text without tabs and line breaks. -/
def dropBreaks (s : Text) : Text := s.filter fun c => !isBreak c

/-- The URL from its path on: path, query and fragment. -/
def pathAndAfter (url : Url) : Text :=
  url.path.toText ++ (url.query.elim [] ('?' :: ·)) ++ (url.fragment.elim [] ('#' :: ·))

end Url

end Routing
