/-
# Path segments

Reading the segments of a path resolves its dot segments: `.` is left out, `..`
removes the segment before it, and each may be spelt with `%2e`.  A dot segment
at the end leaves an empty segment, so that the path ends in `/`.

A segment that is a drive letter, such as `C:`, is never removed.  In the URL of
a file a first segment `C|` is read as `C:`, and empty segments at the front are
dropped.

Tabs and line breaks do not count, with one exception: right behind a drive letter
that begins the path of a file, they end that segment.  The text from there to the
next separator is a segment as it stands, even when it looks like a dot segment.
-/

import Routing.Url.Basic

namespace Routing
namespace Segments

/-- `.` or a spelling of it. -/
def isSingleDot (s : Text) : Bool :=
  [".", "%2e", "%2E"].any (·.toList == s)

/-- `..` or a spelling of it. -/
def isDoubleDot (s : Text) : Bool :=
  ["..", ".%2e", ".%2E", "%2e.", "%2E.", "%2e%2e", "%2e%2E", "%2E%2e", "%2E%2E"].any (·.toList == s)

/-- A dot segment. -/
def isDot (s : Text) : Bool := isSingleDot s || isDoubleDot s

/-- A letter and `:` or `|`. -/
def isDriveLetter : Text → Bool
  | [letter, mark] => letter.isAlpha && (mark == ':' || mark == '|')
  | _ => false

/-- A letter and `:`. -/
def isNormalDriveLetter : Text → Bool
  | [letter, mark] => letter.isAlpha && mark == ':'
  | _ => false

/-- The text of a segment in a URL. -/
def encode (s : Text) : Text := Percent.encode Percent.path (Url.dropBreaks s)

/-- The path without its last segment; `rest` holds the segments in reverse. -/
def removeLast : List Text → List Text
  | [] => []
  | s :: rest => if isDriveLetter s then s :: rest else rest

/-- The drive letter that a tab or line break ends, and the text behind it. -/
def brokenDrive? (s : Text) : Option (Text × Text) :=
  match s.dropWhile Url.isBreak with
  | [] => none
  | letter :: s =>
    match s.dropWhile Url.isBreak with
    | ':' :: c :: s =>
      let rest := Url.dropBreaks s
      if letter.isAlpha && Url.isBreak c && !rest.isEmpty then some ([letter, ':'], rest) else none
    | _ => none

/-- The path with a further piece; `rest` holds the segments before it in reverse. -/
def push (file : Bool) (rest : List Text) (s : Text) : List Text :=
  if file && rest.isEmpty then
    match brokenDrive? s with
    | some (drive, s) => [encode s, drive]
    | none => if isDriveLetter (encode s) then [(encode s).take 1 ++ [':']] else [encode s]
  else encode s :: rest

/-- The segments of a path: `done`, in reverse, followed by the written pieces
with their dot segments resolved. -/
def resolve (file : Bool) (done : List Text) : List Text → List Text
  | [] => done.reverse
  | [s] =>
    if isDoubleDot (encode s) then ([] :: removeLast done).reverse
    else if isSingleDot (encode s) then ([] :: done).reverse
    else (push file done s).reverse
  | s :: pieces =>
    if isDoubleDot (encode s) then resolve file (removeLast done) pieces
    else if isSingleDot (encode s) then resolve file done pieces
    else resolve file (push file done s) pieces

/-- The segments of the path of a file: `done`, in reverse, followed by the written
pieces, the first of which goes on with the text `stem` unless it is a dot segment. -/
def resume (done : List Text) (stem : Text) : List Text → List Text
  | [] => (stem :: done).reverse
  | [s] =>
    if isDoubleDot (encode s) then (stem :: done).reverse
    else if isSingleDot (encode s) then ([] :: stem :: done).reverse
    else ((stem ++ encode s) :: done).reverse
  | s :: pieces =>
    resolve true ((if isDot (encode s) then stem else stem ++ encode s) :: done) pieces

/-- The path of a file has no empty segments at the front. -/
def dropEmptyFront (segments : List Text) : List Text :=
  match segments.dropWhile List.isEmpty with
  | [] => [[]]
  | kept => kept

/-- The character separates segments in URLs of the scheme. -/
def isSeparator (special : Bool) (c : Char) : Bool := c == '/' || (special && c == '\\')

/-- The segments that `written`, the text of a path behind its first separator,
adds to the segments `base` of the path of a file.  The text `stem` is the beginning
of a further segment. -/
def readFile (base : List Text) (stem : Text) (written : Text) : List Text :=
  let pieces := Text.splitBy (isSeparator true) written
  dropEmptyFront <|
    if stem.isEmpty then resolve true base.reverse pieces else resume base.reverse stem pieces

/-- The segments that `written`, the text of a path behind its first separator,
adds to the segments `base` of the path of any other URL. -/
def read (special : Bool) (base : List Text) (written : Text) : List Text :=
  resolve false base.reverse (Text.splitBy (isSeparator special) written)

end Segments
end Routing
