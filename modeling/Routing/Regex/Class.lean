/-
# Bracketed classes

A class lists characters, ranges, named classes and further classes between
brackets; it means their union, or its complement behind a `^`.  The operators
`&&`, `--` and `~~` join such unions from left to right.

A `]` at the front and a `-` at either end stand for themselves.
-/

import Routing.Regex.Escape

namespace Routing
namespace Regex

/-- An operator between two parts of a class. -/
inductive SetOperator where
  /-- `&&`, what both parts hold. -/
  | inter
  /-- `--`, what only the first part holds. -/
  | diff
  /-- `~~`, what exactly one part holds. -/
  | symmDiff

/-- The set that an operator makes of two. -/
def SetOperator.apply : SetOperator → CharSet → CharSet → CharSet
  | inter => CharSet.inter
  | diff => CharSet.diff
  | symmDiff => CharSet.symmDiff

/-- A class whose bracket is still open. -/
structure Bracket where
  /-- It began with `^`. -/
  negated : Bool
  /-- What stands before the last operator, with that operator. -/
  left : Option (CharSet × SetOperator)
  /-- The union of what stands behind it. -/
  union : CharSet

namespace Bracket

/-- The class with a further set in its last part. -/
def add (b : Bracket) (set : CharSet) : Bracket := { b with union := b.union.union set }

/-- What the operators make of the parts. -/
def combined (b : Bracket) (flags : Flags) : CharSet :=
  match b.left with
  | none => b.union
  | some (left, op) => op.apply (flags.fold left) (flags.fold b.union)

/-- The class with a new part behind an operator. -/
def operate (b : Bracket) (flags : Flags) (op : SetOperator) : Bracket :=
  { b with left := some (b.combined flags, op), union := CharSet.empty }

/-- The set that the class means once its bracket is closed. -/
def close? (b : Bracket) (flags : Flags) : Option CharSet :=
  flags.complement? b.negated (flags.fold (b.combined flags))

/-- The class that begins behind an opening bracket. -/
def begin (flags : Flags) (s : Text) : Bracket × Text :=
  let (caret, s) :=
    match flags.skip s with
    | '^' :: s => (true, s)
    | s => (false, s)
  match flags.takeWhile (· == '-') s with
  | ([], ']' :: s) => (⟨caret, none, CharSet.one ']'⟩, s)
  | (dashes, s) => (⟨caret, none, CharSet.ofList dashes⟩, s)

end Bracket

/-- Reads a named class such as `[:alpha:]` or `[:^alpha:]` behind its `[`. -/
def namedClass? (s : Text) : Option (Bool × CharSet × Text) :=
  match s with
  | ':' :: s =>
    let (negated, s) :=
      match s with
      | '^' :: s => (true, s)
      | s => (false, s)
    match Text.cutAt ':' s with
    | (name, some (']' :: rest)) => (CharSet.ofName? name).map fun set => (negated, set, rest)
    | _ => none
  | _ => none

/-- One character of a class, an escape or a class by one letter. -/
def classItem? (flags : Flags) : Text → Option (Escape × Text)
  | [] => none
  | '\\' :: s => Escape.read? flags s
  | c :: s => some (.literal c, s)

/-- The character may be in a class; without Unicode it has to be ASCII. -/
def isClassLiteral (flags : Flags) (c : Char) : Bool := flags.unicode || c.toNat < 128

/-- The set of an item that stands alone. -/
def itemSet? (flags : Flags) : Escape → Option CharSet
  | .literal c => if isClassLiteral flags c then some (CharSet.one c) else none
  | .set set => some set
  | .look _ => none

/-- The set of a range. -/
def rangeSet? (flags : Flags) : Escape → Escape → Option CharSet
  | .literal low, .literal high =>
    if isClassLiteral flags low && isClassLiteral flags high && low ≤ high then
      some (CharSet.range low high)
    else none
  | _, _ => none

/-- The character behind a `-` that decides whether it stands for a range. -/
def afterDash? (flags : Flags) (s : Text) : Option Char :=
  if flags.extended then
    match s.dropWhile Text.isBlank with
    | '#' :: s => (s.dropWhile Text.isBlank).head?
    | s => s.head?
  else s.head?

/-- Reads an item or a range of two. -/
def classRange? (flags : Flags) (s : Text) : Option (CharSet × Text) :=
  (classItem? flags s).bind fun (low, s) =>
    match flags.skip s with
    | '-' :: rest =>
      if afterDash? flags rest = some ']' ∨ afterDash? flags rest = some '-' then
        (itemSet? flags low).map (·, '-' :: rest)
      else
        (classItem? flags (flags.skip rest)).bind fun (high, s) =>
          (rangeSet? flags low high).map (·, s)
    | s => (itemSet? flags low).map (·, s)

/-- Reads the rest of a class and of the classes around it, `outer`. -/
def classRest? (flags : Flags) :
    Nat → Bracket → List Bracket → Text → Option (CharSet × Text)
  | 0, _, _, _ => none
  | fuel + 1, b, outer, s =>
    match flags.skip s with
    | [] => none
    | '[' :: s =>
      match namedClass? s with
      | some (negated, set, s) =>
        (flags.complement? negated (flags.fold set)).bind fun set =>
          classRest? flags fuel (b.add set) outer s
      | none =>
        let (inner, s) := Bracket.begin flags s
        classRest? flags fuel inner (b :: outer) s
    | ']' :: s =>
      (b.close? flags).bind fun set =>
        match outer with
        | [] => some (set, s)
        | b :: outer => classRest? flags fuel (b.add set) outer s
    | '&' :: '&' :: s => classRest? flags fuel (b.operate flags .inter) outer s
    | '-' :: '-' :: s => classRest? flags fuel (b.operate flags .diff) outer s
    | '~' :: '~' :: s => classRest? flags fuel (b.operate flags .symmDiff) outer s
    | s =>
      (classRange? flags s).bind fun (set, s) => classRest? flags fuel (b.add set) outer s

/-- Reads a class behind its opening bracket. -/
def readClass? (flags : Flags) (s : Text) : Option (CharSet × Text) :=
  let (b, rest) := Bracket.begin flags s
  classRest? flags (s.length + 1) b [] rest

end Regex
end Routing
