/-
# URL references

A reference is resolved against a base URL: it may bring a scheme, an authority,
a path, a query or a fragment, and takes what stands before the first of these
from the base.  Control characters and blanks around it are dropped, and so are
tabs and line breaks within.  A text whose authority is malformed is no
reference, and neither is one that needs the path of a base whose path is
unstructured.
-/

import Routing.Url.Host
import Routing.Url.Segments

namespace Routing
namespace Reference

/-- The reference without control characters and blanks around it. -/
def trim (s : Text) : Text := Text.trimBy (fun c => c.toNat ≤ 0x20) s

/-- A character that may stand behind the first one of a scheme. -/
def isSchemeChar (c : Char) : Bool := c.isAlphanum || c == '+' || c == '-' || c == '.'

/-- The scheme at the front, in lower case, and the text behind its colon. -/
def scheme? (s : Text) : Option (Text × Text) :=
  match s with
  | c :: _ =>
    let name := s.takeWhile fun c => isSchemeChar c || Url.isBreak c
    if c.isAlpha then
      match s.drop name.length with
      | ':' :: rest => some ((Url.dropBreaks name).map Char.toLower, rest)
      | _ => none
    else none
  | [] => none

/-- The character begins the query or the fragment. -/
def endsPath (c : Char) : Bool := c == '?' || c == '#'

/-- The query and the fragment that `s` begins with. -/
def queryAndFragment (scheme : Text) (s : Text) : Option Text × Option Text :=
  let kept := if Url.isSpecial scheme then Percent.specialQuery else Percent.query
  let (before, after) := Text.cutAt '#' s
  let query := match before with
    | '?' :: query => some (Percent.encode kept query)
    | _ => none
  (query, after.map (Percent.encode Percent.fragment))

/-- The URL of the scheme with the path and what `s` says behind it. -/
def withPath (scheme : Text) (path : UrlPath) (s : Text) : Url :=
  let (query, fragment) := queryAndFragment scheme s
  { scheme, path, query, fragment }

/-- The URL whose path is `base` and the written segments that `s` begins with. -/
def withSegments (scheme : Text) (base : List Text) (s : Text) : Url :=
  let written := s.takeWhile (fun c => !endsPath c)
  withPath scheme (.segmented (Segments.read (Url.isSpecial scheme) base written))
    (s.drop written.length)

/-- The text behind the authority that `s` begins with; `none` when the
authority is malformed. -/
def skipAuthority? (special : Bool) (s : Text) : Option Text :=
  let isEnd c := endsPath c || Segments.isSeparator special c
  let authority := s.takeWhile (fun c => !isEnd c)
  let rest := s.drop authority.length
  let hostAndPort := (authority.reverse.takeWhile (· != '@')).reverse
  let user := authority.take (authority.length - hostAndPort.length - 1)
  let hasUserMark := hostAndPort.length < authority.length
  let host := takeHost false hostAndPort
  let portText := hostAndPort.drop host.length
  if hasUserMark && user.isEmpty && hostAndPort.isEmpty && !rest.isEmpty then none
  else if host.isEmpty && (special || !portText.isEmpty || !(user.isEmpty || user == [':'])) then
    none
  else if !(if special then Host.isSpecialHost host else Host.isGeneralHost host) then none
  else
    match portText with
    | [] => some rest
    | _ :: digits =>
      let number := digits.takeWhile (fun c => '0' ≤ c && c ≤ '9')
      let after := digits.drop number.length
      if (Text.digitsValue? number).any (65535 < ·) then none
      else
        match after with
        | [] => some rest
        | '\\' :: _ => some (after ++ rest)
        | _ => none
where
  /-- The host at the front: up to a colon outside of brackets. -/
  takeHost (bracketed : Bool) : Text → Text
    | [] => []
    | c :: s =>
      if c = ':' ∧ bracketed = false then []
      else if c = '[' then c :: takeHost true s
      else if c = ']' then c :: takeHost false s
      else c :: takeHost bracketed s

/-- The URL whose authority `s` begins with. -/
def withAuthority (scheme : Text) (s : Text) : Option Url :=
  (skipAuthority? (Url.isSpecial scheme) s).map fun rest =>
    match rest with
    | [] => if Url.isSpecial scheme then withSegments scheme [] []
        else withPath scheme (.segmented []) []
    | c :: behind =>
      if Segments.isSeparator (Url.isSpecial scheme) c then withSegments scheme [] behind
      else if endsPath c && !Url.isSpecial scheme then withPath scheme (.segmented []) rest
      else withSegments scheme [] rest

/-- A reference without path: it may replace query and fragment. -/
def sameDocument (base : Url) (s : Text) : Url :=
  match queryAndFragment base.scheme s with
  | (none, fragment) => { base with fragment }
  | (query, fragment) => { base with query, fragment }

/-- A slash or backslash. -/
def isSlash (c : Char) : Bool := c == '/' || c == '\\'

/-- A reference without scheme, resolved against a URL with segments that is no
file. -/
def joinRelative (base : Url) (segments : List Text) (s : Text) : Option Url :=
  match s with
  | [] => some (sameDocument base s)
  | c :: behind =>
    if endsPath c then some (sameDocument base s)
    else if isSlash c then
      match behind with
      | d :: more =>
        if c = '/' ∧ d = '/' then withAuthority base.scheme more
        else if isSlash d then withAuthority base.scheme (s.dropWhile isSlash)
        else some (withSegments base.scheme [] behind)
      | [] => some (withSegments base.scheme [] behind)
    else some (withSegments base.scheme segments.dropLast s)

/-- The URL of a file whose path is `base`, the text `stem` and the written segments
that `s` begins with. -/
def ofFile (base : List Text) (stem : Text) (s : Text) : Url :=
  let written := s.takeWhile (fun c => !endsPath c)
  withPath "file".toList (.segmented (Segments.readFile base stem written))
    (Url.dropBreaks (s.drop written.length))

/-- The text without a tab or line break begins with a drive letter that is a whole
segment. -/
def startsWithDrive (s : Text) : Bool :=
  let s := Url.dropBreaks s
  Segments.isDriveLetter (s.take 2) && (s.drop 2).head?.all fun c => isSlash c || endsPath c

/-- The text from the host of a file on, behind two slashes. -/
def fileHost (s : Text) : Option Url :=
  let written := s.takeWhile (fun c => !(isSlash c || endsPath c))
  let rest := s.drop written.length
  let host := Url.dropBreaks written
  if host.isEmpty || Segments.isDriveLetter host then some (ofFile [] [] s)
  else if !Host.isSpecialHost host then none
  else if Host.readDomain? host == some ["localhost".toList] then some (ofFile [] [] rest)
  else
    match rest with
    | c :: behind => some (ofFile [] [] (if isSlash c then behind else rest))
    | [] => some (ofFile [] [] [])

/-- An absolute path of a file, behind its first slash.  It keeps the drive of the
base unless it has a drive of its own. -/
def joinDrive (base : Option (Url × List Text)) (s : Text) : Url :=
  match base with
  | some (_, first :: _) =>
    ofFile (if !startsWithDrive s && Segments.isNormalDriveLetter first then [first] else []) [] s
  | _ => ofFile [] [] s

/-- A relative path of a file.  A drive letter at the end of the base stays: alone, it
is the directory of the path, and behind other segments the path goes on with it. -/
def joinDirectory (segments : List Text) (s : Text) : Url :=
  let last := segments.getLast?.getD []
  if !Segments.isNormalDriveLetter last then ofFile segments.dropLast [] s
  else if segments.length = 1 then ofFile segments [] s
  else ofFile segments.dropLast last s

/-- A reference to a file, behind its scheme, resolved against the segments of
another file if there is one.  Tabs and line breaks are still in it. -/
def joinFile (base : Option (Url × List Text)) (s : Text) : Option Url :=
  match s.dropWhile Url.isBreak with
  | [] => some (relative base [])
  | c :: behind =>
    if isSlash c then
      match behind.dropWhile Url.isBreak with
      | [] => some (joinDrive base [])
      | d :: more => if isSlash d then fileHost more else some (joinDrive base behind)
    else some (relative base s)
where
  /-- A reference that does not begin with a slash. -/
  relative (base : Option (Url × List Text)) (s : Text) : Url :=
    match base with
    | none => ofFile [] [] s
    | some (url, segments) =>
      if (Url.dropBreaks s).head?.all endsPath then sameDocument url (Url.dropBreaks s)
      else if startsWithDrive s then ofFile [] [] s
      else joinDirectory segments s

/-- A reference that brings a scheme other than the one of files; `s` is the text
behind the colon. -/
def joinOther (base : Url) (scheme : Text) (s : Text) : Option Url :=
  if Url.isSpecial scheme then
    let slashes := s.takeWhile isSlash
    match base.path with
    | .segmented segments =>
      if slashes.length < 2 ∧ base.scheme = scheme then joinRelative base segments s
      else withAuthority scheme (s.drop slashes.length)
    | .unstructured _ => withAuthority scheme (s.drop slashes.length)
  else
    match s with
    | '/' :: '/' :: behind => withAuthority scheme behind
    | '/' :: behind => some (withSegments scheme [] behind)
    | _ =>
      let text := s.takeWhile (fun c => !endsPath c)
      some (withPath scheme (.unstructured (Percent.encode Percent.opaquePath text))
        (s.drop text.length))

/-- A reference that brings its scheme; `s` is the text behind the colon, in which
tabs and line breaks still are. -/
def joinScheme (base : Url) (scheme : Text) (s : Text) : Option Url :=
  if !Url.isFile scheme then joinOther base scheme (Url.dropBreaks s)
  else
    match base.path with
    | .segmented segments =>
      joinFile (if Url.isFile base.scheme then some (base, segments) else none) s
    | .unstructured _ => joinFile none s

end Reference

/-- The URL that a reference denotes relative to `base`; `none` when the text is
no reference or `base` does not allow it. -/
def Url.join (base : Url) (reference : Text) : Option Url :=
  let s := Reference.trim reference
  match Reference.scheme? s with
  | some (scheme, behind) => Reference.joinScheme base scheme behind
  | none =>
    if s.head? = some '#' then some (Reference.sameDocument base (Url.dropBreaks s))
    else
      match base.path with
      | .unstructured _ => none
      | .segmented segments =>
        if Url.isFile base.scheme then Reference.joinFile (some (base, segments)) s
        else Reference.joinRelative base segments (Url.dropBreaks s)

end Routing
