/-
# Reading expressions

An expression is read from left to right.  The state holds the group that is
being read and the groups around it, each with the branches that are complete and
the pieces of the branch that is not.  A repetition takes the last piece, which
has to be there and is no directive.

Groups close and flags return to what they were where the group began.  Names of
groups are not repeated, and there are no look-arounds and no back-references.

Two limits of regex readers are left out, the one on nesting depth (250) and the
one on the size of the compiled expression.  An expression beyond them is read here
as any other, so what is refused is refused for what it says, never for its size.
-/

import Routing.Regex.Class
import Routing.Regex.Search
import Routing.Text.Letter

namespace Routing
namespace Regex

/-- What has been read of a group. -/
structure Level where
  /-- The branches before the current one, the latest first. -/
  branches : List Expr := []
  /-- The pieces of the current branch, the latest first. -/
  pieces : List Expr := []
  /-- A repetition may follow: the branch has a piece, and no directive stands
  behind it. -/
  repeatable : Bool := false

/-- The expression of a group. -/
def Level.expr (l : Level) : Expr :=
  l.branches.foldl (fun e branch => .alt branch e) (Expr.concat l.pieces.reverse)

/-- A group around the one that is being read. -/
structure OpenGroup where
  /-- What has been read of it. -/
  level : Level
  /-- The flags that it goes on with. -/
  flags : Flags
  /-- The number and the name of the group inside, if it is kept. -/
  kept : Option (Nat × Option Text)

/-- What has been read of an expression. -/
structure State where
  /-- The group that is being read. -/
  level : Level := {}
  /-- The flags at this place. -/
  flags : Flags := {}
  /-- The groups around, the innermost first. -/
  outer : List OpenGroup := []
  /-- How many groups were opened that are kept. -/
  groupCount : Nat := 0
  /-- The names of groups. -/
  names : List Text := []

namespace State

/-- Adds a piece. -/
def push (st : State) (e : Expr) : State :=
  { st with level := { st.level with pieces := e :: st.level.pieces, repeatable := true } }

/-- Repeats the last piece. -/
def repeat? (st : State) (min : Nat) (max : Option Nat) (lazy : Bool) : Option State :=
  match st.level.repeatable, st.level.pieces with
  | true, e :: pieces =>
    let e := Expr.loop min max (lazy == st.flags.swapGreed) e
    some { st with level := { st.level with pieces := e :: pieces } }
  | _, _ => none

/-- Begins the next branch. -/
def alternate (st : State) : State :=
  { st with level :=
      { branches := Expr.concat st.level.pieces.reverse :: st.level.branches } }

/-- Changes the flags for the rest of the group. -/
def setFlags (st : State) (flags : Flags) : State :=
  { st with flags, level := { st.level with repeatable := false } }

/-- Opens a group that is not kept. -/
def openPlain (st : State) (flags : Flags) : State :=
  { st with flags, level := {}, outer := ⟨st.level, st.flags, none⟩ :: st.outer }

/-- Opens a group that is kept. -/
def openKept (st : State) (name : Option Text) : State :=
  { st with
    level := {}
    outer := ⟨st.level, st.flags, some (st.groupCount + 1, name)⟩ :: st.outer
    groupCount := st.groupCount + 1
    names := name.toList ++ st.names }

/-- Closes the group that is being read. -/
def close? (st : State) : Option State :=
  match st.outer with
  | [] => none
  | group :: outer =>
    let e :=
      match group.kept with
      | some (index, name) => Expr.group index name st.level.expr
      | none => st.level.expr
    some (push { st with level := group.level, flags := group.flags, outer } e)

/-- The whole expression, once no group is open. -/
def finish? (st : State) : Option Expr := if st.outer.isEmpty then some st.level.expr else none

end State

/-- A name of a group: a letter or `_`, then also numbers, `.`, `[` and `]`. -/
def isGroupName : Text → Bool
  | [] => false
  | c :: s =>
    (c == '_' || Letter.isAlphabetic c) &&
      s.all fun c => "_.[]".toList.contains c || Letter.isAlphabetic c || Letter.isNumeric c

/-- Opens a group with the name that stands before `>`. -/
def openNamed? (st : State) (s : Text) : Option (State × Text) :=
  match Text.cutAt '>' s with
  | (name, some s) =>
    if isGroupName name && !st.names.contains name then some (st.openKept (some name), s) else none
  | _ => none

/-- Reads the opening of a group behind its parenthesis, or a directive. -/
def readOpening? (st : State) (s : Text) : Option (State × Text) :=
  match st.flags.skip s with
  | '?' :: 'P' :: '<' :: s => openNamed? st s
  | '?' :: '<' :: s => openNamed? st s
  | '?' :: s =>
    (st.flags.directive? [] s).map fun (flags, closing, s) =>
      (if closing = ')' then st.setFlags flags else st.openPlain flags, s)
  | s => some (st.openKept none, s)

/-- A count of a repetition, between blanks; less than 2³². -/
def count? (flags : Flags) (s : Text) : Option Nat × Text :=
  let (digits, rest) := flags.takeWhile (fun c => c.isDigit) (s.dropWhile Text.isBlank)
  let value := if digits.isEmpty then none else Text.digitsValue? digits
  (value.filter (· < 0x100000000), rest.dropWhile Text.isBlank)

/-- The counts of a repetition behind its brace, up to the closing one. -/
def counts? (flags : Flags) (s : Text) : Option ((Nat × Option Nat) × Text) :=
  let (min, s) := count? flags (flags.skip s)
  min.bind fun min =>
    match s with
    | '\x7d' :: s => some ((min, some min), s)
    | ',' :: s =>
      match flags.skip s with
      | '\x7d' :: s => some ((min, none), s)
      | s =>
        match count? flags s with
        | (some max, '\x7d' :: s) => if min ≤ max then some ((min, some max), s) else none
        | _ => none
    | _ => none

/-- Repeats the last piece, lazily if a `?` follows. -/
def readRepetition? (st : State) (min : Nat) (max : Option Nat) (s : Text) :
    Option (State × Text) :=
  match s with
  | '?' :: s => (st.repeat? min max true).map (·, s)
  | s => (st.repeat? min max false).map (·, s)

/-- The expression of a character that stands for itself. -/
def literal (flags : Flags) (c : Char) : Expr := .char (flags.fold (CharSet.one c))

/-- The expression of `.`. -/
def dot? (flags : Flags) : Option Expr :=
  if !flags.unicode then none
  else if flags.dotAll then some (.char CharSet.all)
  else if flags.crlf then some (.char (CharSet.ofList "\r\n".toList).compl)
  else some (.char (CharSet.one '\n').compl)

/-- The expression of an escape. -/
def ofEscape (flags : Flags) : Escape → Expr
  | .literal c => literal flags c
  | .set set => .char set
  | .look l => .look l

/-- Reads the construct that begins with `c`. -/
def step? (st : State) (c : Char) (s : Text) : Option (State × Text) :=
  if c = '(' then readOpening? st s
  else if c = ')' then st.close?.map (·, s)
  else if c = '|' then some (st.alternate, s)
  else if c = '[' then (readClass? st.flags s).map fun (set, s) => (st.push (.char set), s)
  else if c = '?' then readRepetition? st 0 (some 1) s
  else if c = '*' then readRepetition? st 0 none s
  else if c = '+' then readRepetition? st 1 none s
  else if c = '\x7b' then
    (counts? st.flags s).bind fun ((min, max), s) =>
      readRepetition? st min max (st.flags.skip s)
  else if c = '\\' then
    (Escape.read? st.flags s).map fun (escape, s) => (st.push (ofEscape st.flags escape), s)
  else if c = '.' then (dot? st.flags).map fun e => (st.push e, s)
  else if c = '^' then
    some (st.push (.look (if st.flags.multiLine then .lineStart st.flags.crlf else .textStart)), s)
  else if c = '$' then
    some (st.push (.look (if st.flags.multiLine then .lineEnd st.flags.crlf else .textEnd)), s)
  else some (st.push (literal st.flags c), s)

/-- Reads the rest of an expression.  The fuel is more than its length. -/
def readRest? : Nat → State → Text → Option Expr
  | 0, _, _ => none
  | fuel + 1, st, s =>
    match st.flags.skip s with
    | [] => st.finish?
    | c :: s => (step? st c s).bind fun (st, s) => readRest? fuel st s

/-- The expression that a text is the source of. -/
def Expr.read? (source : Text) : Option Expr := readRest? (source.length + 1) {} source

end Regex

/-- A regular expression with its source. -/
structure Regex where
  /-- The source. -/
  source : Text
  /-- The expression. -/
  expr : Regex.Expr
  /-- The expression is what the source says. -/
  read : Regex.Expr.read? source = some expr

namespace Regex

/-- The regular expression with the source; `none` if that is no expression. -/
def compile? (source : Text) : Option Regex :=
  match h : Expr.read? source with
  | some expr => some ⟨source, expr, h⟩
  | none => none

/-- The groups of the first match, by number. -/
def captures? (r : Regex) (s : Text) : Option (List (Nat × Text)) := r.expr.find? none s

/-- The expression matches somewhere in the text. -/
def isMatch (r : Regex) (s : Text) : Bool := (r.captures? s).isSome

end Regex
end Routing
