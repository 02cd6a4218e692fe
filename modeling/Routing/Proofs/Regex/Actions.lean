/-
# Actions of the reader

One step of the reader reads an action, by the flags alone (`readAction?`), and performs it on the
state (`Action.perform?`).  The two halves are looked at on their own (`step?_eq`): an action is
read in the same way with more text behind it (`exists_readAction?_append`), unless it is followed
by a comment that goes on there.

The reader is one function that looks at text and state at once.  Taken apart, the first half has
nothing of the state but its flags, so facts about text are proved without a state, and the second
half has no text.  `step?_eq` is proved along the cases of the reader, one for each character that
has a meaning; no other theorem repeats them but `readAction?_append`.
-/

import Routing.Proofs.Regex.Appended.Class

namespace Routing
namespace Regex

/-- What a step does to the state. -/
inductive Action where
  /-- Adds a character of a set. -/
  | char (set : CharSet)
  /-- Adds a property of a place. -/
  | look (look : Look)
  /-- Repeats the last piece. -/
  | repetition (min : Nat) (max : Option Nat) (lazy : Bool)
  /-- Begins the next branch. -/
  | alternate
  /-- Changes the flags for the rest of the group. -/
  | setFlags (flags : Flags)
  /-- Opens a group that is not kept. -/
  | openPlain (flags : Flags)
  /-- Opens a group that is kept and has no name. -/
  | openKept
  /-- Opens a group with a name. -/
  | openNamed (name : Text)
  /-- Closes the group that is being read. -/
  | close

/-- The state after an action; `none` if the action does not fit the state. -/
def Action.perform? (st : State) : Action → Option State
  | char set => some (st.push (.char set))
  | look l => some (st.push (.look l))
  | repetition min max lazy => st.repeat? min max lazy
  | alternate => some st.alternate
  | setFlags flags => some (st.setFlags flags)
  | openPlain flags => some (st.openPlain flags)
  | openKept => some (st.openKept none)
  | openNamed name => if st.names.contains name then none else some (st.openKept (some name))
  | close => st.close?

/-- A group with a name is opened unless there is one with the name. -/
theorem Action.perform?_openNamed (st : State) (name : Text) :
    (openNamed name).perform? st =
      if st.names.contains name then none else some (st.openKept (some name)) := rfl

/-- A repetition, lazy if a `?` follows. -/
def repetitionAction (min : Nat) (max : Option Nat) : Text → Action × Text
  | '?' :: s => (.repetition min max true, s)
  | s => (.repetition min max false, s)

/-- The group with the name that stands before `>`. -/
def nameAction? (s : Text) : Option (Action × Text) :=
  match Text.cutAt '>' s with
  | (name, some s) => if isGroupName name then some (.openNamed name, s) else none
  | _ => none

/-- The opening of a group behind its parenthesis, or a directive. -/
def openingAction? (flags : Flags) (s : Text) : Option (Action × Text) :=
  match flags.skip s with
  | '?' :: 'P' :: '<' :: s => nameAction? s
  | '?' :: '<' :: s => nameAction? s
  | '?' :: s =>
    (flags.directive? [] s).map fun (flags, closing, s) =>
      (if closing = ')' then .setFlags flags else .openPlain flags, s)
  | s => some (.openKept, s)

/-- The characters of `.`. -/
def dotSet? (flags : Flags) : Option CharSet :=
  if !flags.unicode then none
  else if flags.dotAll then some CharSet.all
  else if flags.crlf then some (CharSet.ofList "\r\n".toList).compl
  else some (CharSet.one '\n').compl

/-- The action of an escape. -/
def Action.ofEscape (flags : Flags) : Escape → Action
  | .literal c => char (flags.fold (CharSet.one c))
  | .set set => char set
  | .look l => look l

/-- The action that begins with `c`. -/
def readAction? (flags : Flags) (c : Char) (s : Text) : Option (Action × Text) :=
  if c = '(' then openingAction? flags s
  else if c = ')' then some (.close, s)
  else if c = '|' then some (.alternate, s)
  else if c = '[' then (readClass? flags s).map fun (set, s) => (.char set, s)
  else if c = '?' then some (repetitionAction 0 (some 1) s)
  else if c = '*' then some (repetitionAction 0 none s)
  else if c = '+' then some (repetitionAction 1 none s)
  else if c = '\x7b' then
    (counts? flags s).map fun ((min, max), s) => repetitionAction min max (flags.skip s)
  else if c = '\\' then
    (Escape.read? flags s).map fun (escape, s) => (.ofEscape flags escape, s)
  else if c = '.' then (dotSet? flags).map fun set => (.char set, s)
  else if c = '^' then
    some (.look (if flags.multiLine then .lineStart flags.crlf else .textStart), s)
  else if c = '$' then
    some (.look (if flags.multiLine then .lineEnd flags.crlf else .textEnd), s)
  else some (.char (flags.fold (CharSet.one c)), s)

/-- What is no name behind `?` is a directive. -/
theorem openingAction?_directive {flags : Flags} {s rest : Text}
    (hskip : flags.skip s = '?' :: rest) (hP : ∀ u, rest ≠ 'P' :: '<' :: u)
    (hname : ∀ u, rest ≠ '<' :: u) :
    openingAction? flags s = (flags.directive? [] rest).map fun (flags, closing, s) =>
      (if closing = ')' then .setFlags flags else .openPlain flags, s) := by
  unfold openingAction?
  rw [hskip]
  split
  case h_1 h => exact absurd (List.cons.inj h).2 (hP _)
  case h_2 h => exact absurd (List.cons.inj h).2 (hname _)
  case h_3 h => rw [(List.cons.inj h).2]
  case h_4 h => exact absurd rfl (h rest)

/-- Without `?` a group is opened that is kept. -/
theorem openingAction?_openKept {flags : Flags} {s : Text}
    (hopen : ∀ u, flags.skip s ≠ '?' :: u) :
    openingAction? flags s = some (.openKept, flags.skip s) := by
  unfold openingAction?
  split
  case h_1 h => exact absurd h (hopen _)
  case h_2 h => exact absurd h (hopen _)
  case h_3 h => exact absurd h (hopen _)
  case h_4 => rfl

section Equations

variable (st : State)

/-- A repetition is read and then performed. -/
theorem readRepetition?_eq (min : Nat) (max : Option Nat) (s : Text) :
    readRepetition? st min max s =
      ((repetitionAction min max s).1.perform? st).map (·, (repetitionAction min max s).2) := by
  cases s with
  | nil => rfl
  | cons c s =>
    by_cases hc : c = '?'
    · subst hc
      rfl
    · simp [readRepetition?, repetitionAction, Action.perform?, hc]

/-- A name is read and then its group is opened. -/
theorem openNamed?_eq (s : Text) :
    openNamed? st s = (nameAction? s).bind fun found =>
      (found.1.perform? st).map (·, found.2) := by
  unfold openNamed? nameAction?
  cases Text.cutAt '>' s with
  | mk name behind =>
    cases behind with
    | none => rfl
    | some rest =>
      dsimp only
      cases isGroupName name with
      | false => rfl
      | true =>
        simp only [Bool.true_and, if_true, Option.bind_some, Action.perform?_openNamed]
        cases st.names.contains name <;> rfl

/-- What follows a parenthesis is read and then performed. -/
theorem readOpening?_eq (s : Text) :
    readOpening? st s = (openingAction? st.flags s).bind fun found =>
      (found.1.perform? st).map (·, found.2) := by
  unfold readOpening?
  split
  case h_1 hskip | h_2 hskip =>
    simp only [openingAction?, hskip]
    exact openNamed?_eq st _
  case h_3 rest hP hname hskip =>
    rw [openingAction?_directive hskip hP hname]
    cases st.flags.directive? [] rest with
    | none => rfl
    | some found =>
      simp only [Option.map_some, Option.bind_some]
      split <;> rfl
  case h_4 hopen =>
    rw [openingAction?_openKept hopen]
    rfl

/-- A point stands for a set of characters, by the flags. -/
theorem dot?_eq (flags : Flags) : dot? flags = (dotSet? flags).map .char := by
  unfold dot? dotSet?
  split
  · rfl
  · split
    · rfl
    · split <;> rfl

/-- **A step reads an action and performs it.** -/
theorem step?_eq (c : Char) (s : Text) :
    step? st c s = (readAction? st.flags c s).bind fun found =>
      (found.1.perform? st).map (·, found.2) := by
  unfold step? readAction?
  -- The cases are those of the reader, in its order.
  by_cases hopen : c = '('
  · rw [if_pos hopen, if_pos hopen]
    exact readOpening?_eq st s
  rw [if_neg hopen, if_neg hopen]
  by_cases hclose : c = ')'
  · rw [if_pos hclose, if_pos hclose]
    rfl
  rw [if_neg hclose, if_neg hclose]
  by_cases hbar : c = '|'
  · rw [if_pos hbar, if_pos hbar]
    rfl
  rw [if_neg hbar, if_neg hbar]
  by_cases hclass : c = '['
  · rw [if_pos hclass, if_pos hclass]
    cases readClass? st.flags s <;> rfl
  rw [if_neg hclass, if_neg hclass]
  by_cases hoptional : c = '?'
  · rw [if_pos hoptional, if_pos hoptional]
    exact readRepetition?_eq st 0 (some 1) s
  rw [if_neg hoptional, if_neg hoptional]
  by_cases hstar : c = '*'
  · rw [if_pos hstar, if_pos hstar]
    exact readRepetition?_eq st 0 none s
  rw [if_neg hstar, if_neg hstar]
  by_cases hplus : c = '+'
  · rw [if_pos hplus, if_pos hplus]
    exact readRepetition?_eq st 1 none s
  rw [if_neg hplus, if_neg hplus]
  by_cases hbrace : c = '\x7b'
  · rw [if_pos hbrace, if_pos hbrace]
    cases counts? st.flags s with
    | none => rfl
    | some found => exact readRepetition?_eq st found.1.1 found.1.2 _
  rw [if_neg hbrace, if_neg hbrace]
  by_cases hbackslash : c = '\\'
  · rw [if_pos hbackslash, if_pos hbackslash]
    cases Escape.read? st.flags s with
    | none => rfl
    | some found =>
      obtain ⟨escape, rest⟩ := found
      cases escape <;> rfl
  rw [if_neg hbackslash, if_neg hbackslash]
  by_cases hdot : c = '.'
  · rw [if_pos hdot, if_pos hdot, dot?_eq]
    cases dotSet? st.flags <;> rfl
  rw [if_neg hdot, if_neg hdot]
  by_cases hcaret : c = '^'
  · rw [if_pos hcaret, if_pos hcaret]
    rfl
  rw [if_neg hcaret, if_neg hcaret]
  by_cases hdollar : c = '$'
  · rw [if_pos hdollar, if_pos hdollar]
    rfl
  rw [if_neg hdollar, if_neg hdollar]
  rfl

end Equations

/-- What is left behind a part that was read of a text that begins with a parenthesis: all of it, or
nothing of a line that a comment takes up. -/
inductive Leaves : Bool → Text → Text → Prop
  /-- The part does not end in a comment. -/
  | all {t : Text} (h : t.head? = some ')') : Leaves false t t
  /-- The part ends in a comment. -/
  | nothing {t : Text} (h : t.head? = some ')') (hline : '\n' ∉ t) : Leaves true t []

namespace Leaves

variable {comment : Bool} {t t' : Text}

/-- The text behind begins with a parenthesis. -/
theorem head?_eq (h : Leaves comment t t') : t.head? = some ')' := by
  cases h with
  | all h => exact h
  | nothing h => exact h

/-- What is left of it begins with no other character. -/
theorem head?_ne (h : Leaves comment t t') {c : Char} (hc : c ≠ ')') : t'.head? ≠ some c := by
  cases h with
  | all h => rw [h]; exact fun heq => hc (Option.some.inj heq).symm
  | nothing => simp

/-- Neither blanks nor a comment are left. -/
theorem skip_eq (h : Leaves comment t t') (flags : Flags) : flags.skip t' = t' := by
  cases h with
  | all h =>
    obtain ⟨t, rfl⟩ := List.head?_eq_some_iff.mp h
    unfold Flags.skip
    split
    · simp [Flags.dropSpace, show Text.isBlank ')' = false by decide]
    · rfl
  | nothing => exact flags.skip_nil

end Leaves

/-- Blanks and comments are skipped in the same way with more text behind them, which they may take
up if nothing else follows. -/
theorem Flags.exists_skip_append (flags : Flags) (s : Text) :
    ∃ comment, (comment = true → flags.skip s = []) ∧
      ∀ t t', Leaves comment t t' → flags.skip (s ++ t) = flags.skip s ++ t' := by
  cases hskip : flags.skip s with
  | cons c rest =>
    refine ⟨false, by simp, fun t t' h => ?_⟩
    cases h
    exact skip_append hskip t
  | nil =>
    cases hx : flags.extended with
    | false =>
      rw [skip, hx] at hskip
      obtain rfl : s = [] := hskip
      exact ⟨false, by simp, fun t t' h => by cases h; rw [skip, hx]; rfl⟩
    | true =>
      rw [skip, hx] at hskip
      obtain ⟨comment, hcomment⟩ := exists_dropSpace_append hskip
      refine ⟨comment, fun _ => rfl, fun t t' h => ?_⟩
      rw [skip, hx, if_pos rfl, hcomment, List.nil_append]
      cases h with
      | all h =>
        have := (Leaves.all h).skip_eq flags
        rwa [skip, hx] at this
      | nothing _ hline => exact dropSpace_of_not_mem hline

/-- A repetition is read in the same way unless a question mark follows. -/
theorem repetitionAction_append (min : Nat) (max : Option Nat) (s : Text) {t : Text}
    (h : t.head? ≠ some '?') :
    repetitionAction min max (s ++ t) =
      ((repetitionAction min max s).1, (repetitionAction min max s).2 ++ t) := by
  cases s with
  | nil =>
    cases t with
    | nil => rfl
    | cons c t =>
      have hc : c ≠ '?' := fun heq => h (heq ▸ rfl)
      simp [repetitionAction, hc]
  | cons c s =>
    by_cases hc : c = '?'
    · subst hc
      rfl
    · simp [repetitionAction, hc]

section Append

variable {flags : Flags} {s s' : Text} {action : Action}

/-- A name ends at its angle bracket. -/
theorem nameAction?_append (h : nameAction? s = some (action, s')) (t : Text) :
    nameAction? (s ++ t) = some (action, s' ++ t) := by
  unfold nameAction? at h ⊢
  split at h
  case h_1 hcut =>
    rw [Text.cutAt_append hcut]
    split at h
    case isTrue hname =>
      cases h
      exact if_pos hname
    case isFalse => cases h
  case h_2 => cases h

/-- An opening is read in the same way, unless a comment behind it goes on. -/
theorem exists_openingAction?_append (h : openingAction? flags s = some (action, s')) :
    ∃ comment, (comment = true → s' = []) ∧
      ∀ t t', Leaves comment t t' → openingAction? flags (s ++ t) = some (action, s' ++ t') := by
  obtain ⟨comment, hcomment, hskips⟩ := flags.exists_skip_append s
  unfold openingAction? at h
  split at h
  case h_1 hskip | h_2 hskip =>
    refine ⟨false, by simp, fun t t' hleaves => ?_⟩
    cases hleaves
    unfold openingAction?
    simp only [Flags.skip_append hskip]
    exact nameAction?_append h t
  case h_3 rest hP hname hskip =>
    obtain ⟨⟨flags', closing, behind⟩, hdirective, h⟩ := Option.map_eq_some_iff.mp h
    cases h
    refine ⟨false, by simp, fun t t' hleaves => ?_⟩
    have hne {c : Char} (hc : c ≠ ')') : t.head? ≠ some c := by
      rw [hleaves.head?_eq]
      exact fun heq => hc (Option.some.inj heq).symm
    cases hleaves
    -- No name begins behind the directive, for the parenthesis is none of its characters.
    have hP' (u : Text) : rest ++ t ≠ 'P' :: '<' :: u := fun heq => by
      obtain ⟨v, rfl⟩ := exists_cons_of_append heq (hne (by decide))
      obtain ⟨v, rfl⟩ := exists_cons_of_append (List.cons.inj heq).2 (hne (by decide))
      exact hP v rfl
    have hname' (u : Text) : rest ++ t ≠ '<' :: u := fun heq => by
      obtain ⟨v, rfl⟩ := exists_cons_of_append heq (hne (by decide))
      exact hname v rfl
    rw [openingAction?_directive (Flags.skip_append hskip t) hP' hname',
      Flags.directive?_append hdirective]
    rfl
  case h_4 hopen =>
    cases h
    refine ⟨comment, hcomment, fun t t' hleaves => ?_⟩
    have hne (u : Text) : flags.skip s ++ t' ≠ '?' :: u := fun heq => by
      obtain ⟨v, hv⟩ := exists_cons_of_append heq (hleaves.head?_ne (by decide))
      exact hopen v hv
    rw [openingAction?_openKept (by rwa [hskips t t' hleaves]), hskips t t' hleaves]

/-- Most actions end where their text does. -/
theorem readAction?_append {c : Char} (hopen : c ≠ '(') (hbrace : c ≠ '\x7b')
    (h : readAction? flags c s = some (action, s')) {t : Text} (ht : t.head? = some ')') :
    readAction? flags c (s ++ t) = some (action, s' ++ t) := by
  have hrepetition {min : Nat} {max : Option Nat}
      (h : some (repetitionAction min max s) = some (action, s')) :
      some (repetitionAction min max (s ++ t)) = some (action, s' ++ t) := by
    rw [repetitionAction_append _ _ _ (by rw [ht]; decide), Option.some.inj h]
  unfold readAction? at h ⊢
  rw [if_neg hopen] at h ⊢
  -- The cases are those of the reader, in its order.
  by_cases hclose : c = ')'
  · rw [if_pos hclose] at h ⊢
    cases h
    rfl
  rw [if_neg hclose] at h ⊢
  by_cases hbar : c = '|'
  · rw [if_pos hbar] at h ⊢
    cases h
    rfl
  rw [if_neg hbar] at h ⊢
  by_cases hclass : c = '['
  · rw [if_pos hclass] at h ⊢
    obtain ⟨⟨set, rest⟩, hset, h⟩ := Option.map_eq_some_iff.mp h
    cases h
    exact Option.map_eq_some_iff.mpr ⟨_, readClass?_append hset ht, rfl⟩
  rw [if_neg hclass] at h ⊢
  by_cases hoptional : c = '?'
  · rw [if_pos hoptional] at h ⊢
    exact hrepetition h
  rw [if_neg hoptional] at h ⊢
  by_cases hstar : c = '*'
  · rw [if_pos hstar] at h ⊢
    exact hrepetition h
  rw [if_neg hstar] at h ⊢
  by_cases hplus : c = '+'
  · rw [if_pos hplus] at h ⊢
    exact hrepetition h
  rw [if_neg hplus, if_neg hbrace] at h ⊢
  by_cases hbackslash : c = '\\'
  · rw [if_pos hbackslash] at h ⊢
    obtain ⟨⟨escape, rest⟩, hescape, h⟩ := Option.map_eq_some_iff.mp h
    cases h
    exact Option.map_eq_some_iff.mpr ⟨_, Escape.read?_append hescape ht, rfl⟩
  rw [if_neg hbackslash] at h ⊢
  by_cases hdot : c = '.'
  · rw [if_pos hdot] at h ⊢
    obtain ⟨set, hset, h⟩ := Option.map_eq_some_iff.mp h
    cases h
    exact Option.map_eq_some_iff.mpr ⟨set, hset, rfl⟩
  rw [if_neg hdot] at h ⊢
  by_cases hcaret : c = '^'
  · rw [if_pos hcaret] at h ⊢
    cases h
    rfl
  rw [if_neg hcaret] at h ⊢
  by_cases hdollar : c = '$'
  · rw [if_pos hdollar] at h ⊢
    cases h
    rfl
  rw [if_neg hdollar] at h ⊢
  cases h
  rfl

/-- **An action is read in the same way with more text behind it**, unless a comment behind the
action goes on there. -/
theorem exists_readAction?_append {c : Char} (h : readAction? flags c s = some (action, s')) :
    ∃ comment, (comment = true → s' = []) ∧
      ∀ t t', Leaves comment t t' → readAction? flags c (s ++ t) = some (action, s' ++ t') := by
  by_cases hopen : c = '('
  · subst hopen
    exact exists_openingAction?_append h
  by_cases hbrace : c = '\x7b'
  · subst hbrace
    obtain ⟨⟨⟨min, max⟩, rest⟩, hcounts, h⟩ := Option.map_eq_some_iff.mp h
    -- A `?` may follow behind blanks, and a comment among them may go on.
    obtain ⟨comment, hcomment, hskips⟩ := flags.exists_skip_append rest
    dsimp only at h
    refine ⟨comment, fun hc => ?_, fun t t' hleaves => ?_⟩
    · rw [hcomment hc] at h
      exact (Prod.mk.inj h).2.symm
    · refine Option.map_eq_some_iff.mpr ⟨_, counts?_append hcounts t, ?_⟩
      dsimp only
      rw [hskips t t' hleaves, repetitionAction_append _ _ _ (hleaves.head?_ne (by decide)), h]
  exact ⟨false, by simp, fun t t' hleaves => by
    cases hleaves with
    | all ht => exact readAction?_append hopen hbrace h ht⟩

end Append

end Regex
end Routing
