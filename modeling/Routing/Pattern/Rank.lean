/-
# Ranks

The rank of a pattern tells how specific it is, so that a URL goes to the most
specific of the patterns that match.  It is the sum of a score for each segment
of the path: more for a segment with literal text, less for one that is a single
parameter, and least for the root.  Empty segments at either end do not count.
-/

import Routing.Pattern.Basic

namespace Routing

/-- What a segment of a path is made of. -/
structure SegmentShape where
  /-- How many parameters it has. -/
  params : Nat
  /-- It has literal text. -/
  hasText : Bool
deriving DecidableEq

namespace SegmentShape

/-- A segment without contents. -/
def empty : SegmentShape := ⟨0, false⟩

/-- The score of a segment. -/
def score (shape : SegmentShape) : Nat :=
  4 + if shape = empty then 1 else if shape = ⟨1, false⟩ then 2 else 3

/-- The shapes with literal text in front. -/
def pushText (s : Text) (shapes : List SegmentShape) : List SegmentShape :=
  match shapes with
  | [] => []
  | shape :: shapes => { shape with hasText := shape.hasText || !s.isEmpty } :: shapes

/-- The shapes with a literal in front, whose pieces are the texts between
slashes. -/
def pushPieces : List Text → List SegmentShape → List SegmentShape
  | [], shapes => shapes
  | [piece], shapes => pushText piece shapes
  | piece :: pieces, shapes => ⟨0, !piece.isEmpty⟩ :: pushPieces pieces shapes

/-- The shapes with a token in front. -/
def push (token : Token) (shapes : List SegmentShape) : List SegmentShape :=
  match token with
  | .literal s => pushPieces (Text.splitBy (· == '/') s) shapes
  | .param _ =>
    match shapes with
    | [] => []
    | shape :: shapes => { shape with params := shape.params + 1 } :: shapes

/-- The shapes of the segments of tokens; at least one. -/
def ofTokens (tokens : List Token) : List SegmentShape := tokens.foldr push [empty]

/-- Drops empty shapes from the front, but for the last shape. -/
def dropEmpty : List SegmentShape → List SegmentShape
  | [] => []
  | [shape] => [shape]
  | shape :: shapes => if shape = empty then dropEmpty shapes else shape :: shapes

/-- Drops empty shapes from both ends, but for the last one. -/
def trim (shapes : List SegmentShape) : List SegmentShape :=
  (dropEmpty (dropEmpty shapes).reverse).reverse

end SegmentShape

/-- How specific the pattern is. -/
def Pattern.rank (p : Pattern) : Nat :=
  ((SegmentShape.trim (SegmentShape.ofTokens p.tokens)).map SegmentShape.score).foldl (· + ·) 0

end Routing
