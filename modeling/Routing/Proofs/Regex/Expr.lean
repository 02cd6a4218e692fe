/-
# Groups of expressions

The numbers of the groups of an expression can be raised (`Expr.shift`), whichever way it was put
together from pieces, branches and loops.  The names of its groups are those of its parts.

Expressions are put together by a few functions, and the induction on an expression is done once
for each fact; the loops are then unfolded into pieces and branches.
-/

import Routing.Regex.Expr

namespace Routing
namespace Regex

namespace Expr

/-- The expression with the numbers of its groups raised. -/
def shift (n : Nat) : Expr → Expr
  | empty => empty
  | char set => char set
  | look l => look l
  | seq first second => seq (first.shift n) (second.shift n)
  | alt first second => alt (first.shift n) (second.shift n)
  | star greedy body => star greedy (body.shift n)
  | plus greedy body => plus greedy (body.shift n)
  | group index name body => group (index + n) name (body.shift n)

variable (n : Nat)

/-- Raising goes over to the pieces of a sequence. -/
theorem shift_concat (es : List Expr) : (concat es).shift n = concat (es.map (shift n)) := by
  induction es with
  | nil => rfl
  | cons e es ih => exact congrArg (seq (e.shift n)) ih

/-- What an expression can match does not depend on the numbers of its groups. -/
theorem nullable_shift (e : Expr) : (e.shift n).nullable = e.nullable := by
  induction e with
  | empty => rfl
  | char set => rfl
  | look l => rfl
  | seq first second ih ih' => rw [shift, nullable, nullable, ih, ih']
  | alt first second ih ih' => rw [shift, nullable, nullable, ih, ih']
  | star greedy body ih => rfl
  | plus greedy body ih => exact ih
  | group index name body ih => exact ih

/-- Raising goes over to what is optional. -/
theorem shift_optional (greedy : Bool) (e : Expr) :
    (optional greedy e).shift n = optional greedy (e.shift n) := by
  cases greedy <;> rfl

/-- Raising goes over to what is repeated a number of times. -/
theorem shift_times (e next : Expr) (k : Nat) :
    (e.times next k).shift n = (e.shift n).times (next.shift n) k := by
  induction k with
  | zero => rfl
  | succ k ih => exact congrArg (seq (e.shift n)) ih

/-- Raising goes over to what is repeated up to a number of times. -/
theorem shift_upTo (greedy : Bool) (e : Expr) (k : Nat) :
    (e.upTo greedy k).shift n = (e.shift n).upTo greedy k := by
  induction k with
  | zero => rfl
  | succ k ih => rw [upTo, shift_optional, shift, ih, upTo]

/-- Raising goes over to loops. -/
theorem shift_loop (min : Nat) (max : Option Nat) (greedy : Bool) (e : Expr) :
    (loop min max greedy e).shift n = loop min max greedy (e.shift n) := by
  unfold loop
  cases max with
  | some max => rw [shift_times, shift_upTo]
  | none =>
    cases min with
    | succ min => rw [shift_times, shift]
    | zero =>
      dsimp only
      rw [nullable_shift]
      split
      · rw [shift_optional, shift]
      · rfl

/-- The groups keep their names when their numbers are raised. -/
theorem groupNames_shift (e : Expr) :
    (e.shift n).groupNames = e.groupNames.map fun entry => (entry.1 + n, entry.2) := by
  induction e with
  | empty => rfl
  | char set => rfl
  | look l => rfl
  | seq first second ih ih' => rw [shift, groupNames, groupNames, List.map_append, ih, ih']
  | alt first second ih ih' => rw [shift, groupNames, groupNames, List.map_append, ih, ih']
  | star greedy body ih => exact ih
  | plus greedy body ih => exact ih
  | group index name body ih =>
    rw [shift, groupNames, groupNames, List.map_append, ih]
    cases name <;> rfl

/-- Pieces have the names of the groups of each of them. -/
theorem groupNames_concat (es : List Expr) :
    (concat es).groupNames = es.flatMap groupNames := by
  induction es with
  | nil => rfl
  | cons e es ih => rw [List.flatMap_cons, ← ih]; rfl

/-- A loop has no other groups than its body. -/
theorem mem_groupNames_loop {entry : Nat × Text} {min : Nat} {max : Option Nat} {greedy : Bool}
    {e : Expr} (h : entry ∈ (loop min max greedy e).groupNames) : entry ∈ e.groupNames := by
  have hoptional {e' : Expr} (h : entry ∈ (optional greedy e').groupNames) :
      entry ∈ e'.groupNames := by
    cases greedy <;> simpa [optional, groupNames] using h
  have hupTo {k : Nat} (h : entry ∈ (e.upTo greedy k).groupNames) : entry ∈ e.groupNames := by
    induction k with
    | zero => cases h
    | succ k ih =>
      rcases List.mem_append.mp (hoptional h) with h | h
      · exact h
      · exact ih h
  have htimes {next : Expr} {k : Nat} (h : entry ∈ (e.times next k).groupNames) :
      entry ∈ e.groupNames ∨ entry ∈ next.groupNames := by
    induction k with
    | zero => exact .inr h
    | succ k ih =>
      rcases List.mem_append.mp h with h | h
      · exact .inl h
      · exact ih h
  -- The copies of the body have the names of the body, however many of them are made.
  unfold loop at h
  split at h
  case h_1 => exact (htimes h).elim id hupTo
  case h_2 =>
    split at h
    · have h := hoptional h
      exact h
    · exact h
  case h_3 => exact (htimes h).elim id id

end Expr

end Regex
end Routing
