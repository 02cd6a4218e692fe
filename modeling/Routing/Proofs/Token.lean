/-
# The form of joined tokens

The tokens of a pattern are joined: no literal is empty, and no two literals follow each other
(`IsJoined`).  They begin with a slash, and what holds of literals that are put together holds of
theirs (`forall_literal_rooted`).

Both operations are followed through one token at a time.  Putting a token in front of joined
tokens either drops it, lengthens the literal that is there, or leaves all as it is, and each of
the three keeps the form (`isJoined_push`).  Whether something holds of all literals is decided in
the same way, for every property that goes over to concatenations.
-/

import Routing.Token

namespace Routing
namespace Token

/-- No literal is empty, and no two literals follow each other. -/
def IsJoined : List Token → Prop
  | [] => True
  | literal s :: tokens => s ≠ [] ∧ (∀ t, tokens.head? ≠ some (literal t)) ∧ IsJoined tokens
  | param _ :: tokens => IsJoined tokens

/-- **One more token in front keeps tokens joined.** -/
theorem isJoined_push (token : Token) {tokens : List Token} (h : IsJoined tokens) :
    IsJoined (push token tokens) := by
  unfold push
  split
  case h_1 => exact h
  case h_2 s t tokens hs =>
    exact ⟨fun hnil => hs (List.append_eq_nil_iff.mp hnil).1, h.2.1, h.2.2⟩
  -- What is left of the cases: a parameter, or text that is not empty in front of something other
  -- than text.
  case h_3 hnil hcons =>
    cases token with
    | literal s =>
      refine ⟨fun hs => hnil (hs ▸ rfl), fun t ht => ?_, h⟩
      obtain ⟨rest, rfl⟩ := List.head?_eq_some_iff.mp ht
      exact hcons s t rest rfl rfl
    | param p => exact h

/-- Joining joins, whatever the tokens are. -/
theorem isJoined_join (tokens : List Token) : IsJoined (join tokens) := by
  induction tokens with
  | nil => trivial
  | cons token tokens ih => exact isJoined_push token ih

/-- Joined tokens have nothing to join. -/
theorem join_eq_self {tokens : List Token} (h : IsJoined tokens) : join tokens = tokens := by
  induction tokens with
  | nil => rfl
  | cons token tokens ih =>
    cases token with
    | param p => exact congrArg (push (param p)) (ih h)
    | literal s =>
      obtain ⟨hne, hhead, htail⟩ := h
      show push (literal s) (join tokens) = _
      rw [ih htail]
      obtain ⟨c, s, rfl⟩ := List.exists_cons_of_ne_nil hne
      cases tokens with
      | nil => rfl
      | cons next tokens =>
        cases next with
        | literal t => exact absurd rfl (hhead t)
        | param p => rfl

/-- A literal in front of a literal in front of tokens. -/
theorem push_literal_push_literal (s t : Text) (tokens : List Token) :
    push (literal s) (push (literal t) tokens) = push (literal (s ++ t)) tokens := by
  cases t with
  | nil =>
    rw [List.append_nil]
    rfl
  | cons c t =>
    cases s with
    | nil => rfl
    | cons d s =>
      cases tokens with
      | nil => rfl
      | cons token tokens =>
        cases token with
        | literal u => simp [push]
        | param p => rfl

/-- A slash at the front goes on with a literal that is there, or stands before a parameter, so
tokens stay joined. -/
theorem isJoined_rooted {tokens : List Token} (h : IsJoined tokens) : IsJoined (rooted tokens) := by
  unfold rooted
  split
  case h_1 => exact h
  case h_2 => exact ⟨List.cons_ne_nil _ _, h.2⟩
  case h_3 hslash hliteral =>
    refine ⟨List.cons_ne_nil _ _, fun t ht => ?_, h⟩
    obtain ⟨rest, rfl⟩ := List.head?_eq_some_iff.mp ht
    exact hliteral t rest rfl

/-- Rooted tokens begin with a literal, and that begins with a slash. -/
theorem rooted_eq_cons (tokens : List Token) :
    ∃ s rest, rooted tokens = literal ('/' :: s) :: rest := by
  unfold rooted
  split
  · exact ⟨_, _, rfl⟩
  · exact ⟨_, _, rfl⟩
  · exact ⟨_, _, rfl⟩

section Literals

variable {P : Text → Prop} {tokens : List Token}

/-- What holds of two literals and of their concatenation holds behind an insertion. -/
theorem forall_literal_push (happend : ∀ s t, P s → P t → P (s ++ t)) {token : Token}
    (h : ∀ s, literal s ∈ token :: tokens → P s) : ∀ s, literal s ∈ push token tokens → P s := by
  unfold push
  split
  case h_1 => exact fun s hs => h s (List.mem_cons_of_mem _ hs)
  case h_2 s t tokens _ =>
    intro u hu
    rcases List.mem_cons.mp hu with hu | hu
    · obtain rfl := Token.literal.inj hu
      exact happend s t (h s List.mem_cons_self)
        (h t (List.mem_cons_of_mem _ List.mem_cons_self))
    · exact h u (List.mem_cons_of_mem _ (List.mem_cons_of_mem _ hu))
  case h_3 => exact h

/-- A property of literals that goes over to concatenations goes over to joined tokens. -/
theorem forall_literal_join (happend : ∀ s t, P s → P t → P (s ++ t))
    (h : ∀ s, literal s ∈ tokens → P s) : ∀ s, literal s ∈ join tokens → P s := by
  induction tokens with
  | nil => exact h
  | cons token tokens ih =>
    refine forall_literal_push happend fun s hs => ?_
    rcases List.mem_cons.mp hs with hs | hs
    · exact h s (hs ▸ List.mem_cons_self)
    · exact ih (fun s hs => h s (List.mem_cons_of_mem _ hs)) s hs

/-- Such a property goes over to rooted tokens too, if a slash alone has it. -/
theorem forall_literal_rooted (happend : ∀ s t, P s → P t → P (s ++ t)) (hslash : P ['/'])
    (h : ∀ s, literal s ∈ tokens → P s) : ∀ s, literal s ∈ rooted tokens → P s := by
  unfold rooted
  split
  case h_1 => exact h
  case h_2 s tokens _ =>
    intro u hu
    rcases List.mem_cons.mp hu with hu | hu
    · obtain rfl := Token.literal.inj hu
      exact happend ['/'] s hslash (h s List.mem_cons_self)
    · exact h u (List.mem_cons_of_mem _ hu)
  case h_3 =>
    intro u hu
    rcases List.mem_cons.mp hu with hu | hu
    · exact Token.literal.inj hu ▸ hslash
    · exact h u hu

end Literals

end Token
end Routing
