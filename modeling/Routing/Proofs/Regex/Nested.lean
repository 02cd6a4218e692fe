/-
# Reading an expression inside of another one

An expression that can be read on its own is read in the same way inside of a group, with the
numbers of its groups raised by that of the groups before it (`State.inside`,
`exists_proceeds_inside`).  Two things may come in between: a name may be there already, and a
comment at its end may take up the parenthesis that closes the group around it.  The latter depends
on the expression alone (`IsClosed`, `exists_proceeds`).

The invariant is `Proceeds`: from one state and text, so many steps lead to another state and text,
whatever is behind, or a repeated name has stopped the reader on the way.  It composes
(`Proceeds.trans`), and one action makes a step of it, since performing an action commutes with
being inside of other groups (`Action.perform?_inside`).  What the groups are called is kept in a
list beside them, and `State.IsNamed` says that the two agree.
-/

import Routing.Proofs.Regex.Actions
import Routing.Proofs.Regex.Expr

namespace Routing
namespace Regex

/-! ### A state inside of another one -/

/-- The level with the numbers of its groups raised. -/
def Level.shift (n : Nat) (l : Level) : Level :=
  { branches := l.branches.map (Expr.shift n)
    pieces := l.pieces.map (Expr.shift n)
    repeatable := l.repeatable }

/-- Raising the numbers before or after a level is closed comes to the same. -/
theorem Level.expr_shift (n : Nat) (l : Level) : (l.shift n).expr = l.expr.shift n := by
  have hfoldl (branches : List Expr) (e : Expr) :
      (branches.map (Expr.shift n)).foldl (fun e branch => .alt branch e) (e.shift n) =
        (branches.foldl (fun e branch => .alt branch e) e).shift n := by
    induction branches generalizing e with
    | nil => rfl
    | cons branch branches ih => exact ih (.alt branch e)
  rw [Level.expr, Level.expr, Level.shift, ← hfoldl, Expr.shift_concat, List.map_reverse]

/-- The group with the numbers of its groups raised. -/
def OpenGroup.shift (n : Nat) (g : OpenGroup) : OpenGroup :=
  { level := g.level.shift n
    flags := g.flags
    kept := g.kept.map fun (index, name) => (index + n, name) }

/-- What an expression is read inside of. -/
structure Surroundings where
  /-- The groups around, the innermost first. -/
  outer : List OpenGroup
  /-- How many groups were opened that are kept. -/
  groupCount : Nat
  /-- The names of groups. -/
  names : List Text

namespace State

/-- The state inside of surroundings. -/
def inside (around : Surroundings) (st : State) : State :=
  { level := st.level.shift around.groupCount
    flags := st.flags
    outer := st.outer.map (OpenGroup.shift around.groupCount) ++ around.outer
    groupCount := st.groupCount + around.groupCount
    names := st.names ++ around.names }

variable (around : Surroundings)

/-- A branch begins inside of other groups as it does outside. -/
theorem inside_alternate (st : State) :
    st.alternate.inside around = (st.inside around).alternate := by
  have hbranch : (Expr.concat st.level.pieces.reverse).shift around.groupCount =
      Expr.concat (st.level.pieces.map (Expr.shift around.groupCount)).reverse := by
    rw [Expr.shift_concat, List.map_reverse]
  rw [alternate, inside, Level.shift, List.map_cons, hbranch]
  rfl

/-- A group opens inside of other groups as it does outside, with its number raised. -/
theorem inside_openKept (st : State) (name : Option Text) :
    (st.openKept name).inside around = (st.inside around).openKept name := by
  simp only [openKept, inside, List.map_cons, OpenGroup.shift, Option.map_some, List.append_assoc,
    List.cons_append, Nat.add_right_comm _ 1]
  rfl

variable {st st' : State}

/-- A piece is repeated inside of other groups as it is outside. -/
theorem inside_repeat? {min : Nat} {max : Option Nat} {lazy : Bool}
    (h : st.repeat? min max lazy = some st') :
    (st.inside around).repeat? min max lazy = some (st'.inside around) := by
  unfold repeat? at h
  split at h
  case h_1 e pieces hrepeatable hpieces =>
    cases h
    simp only [repeat?, inside, Level.shift, hrepeatable, hpieces, List.map_cons,
      Expr.shift_loop]
  case h_2 => cases h

/-- A repetition opens no group. -/
theorem names_repeat? {min : Nat} {max : Option Nat} {lazy : Bool}
    (h : st.repeat? min max lazy = some st') : st'.names = st.names := by
  unfold repeat? at h
  split at h
  case h_1 => exact Option.some.inj h ▸ rfl
  case h_2 => cases h

/-- Closing a group leaves the names as they are. -/
theorem names_close? (h : st.close? = some st') : st'.names = st.names := by
  unfold close? at h
  split at h
  case h_1 => cases h
  case h_2 => exact Option.some.inj h ▸ rfl

/-- A group that was opened inside is closed inside. -/
theorem inside_close? (h : st.close? = some st') :
    (st.inside around).close? = some (st'.inside around) := by
  unfold close? at h
  split at h
  case h_1 => cases h
  case h_2 group outer houter =>
    cases h
    obtain ⟨level, flags, kept⟩ := group
    simp only [close?, inside, houter, List.map_cons, List.cons_append, OpenGroup.shift,
      Level.expr_shift]
    cases kept <;> rfl

end State

/-- An action may add a name, which is a new one. -/
theorem Action.names_eq {action : Action} {st st' : State} (h : action.perform? st = some st') :
    st'.names = st.names ∨ ∃ name, name ∉ st.names ∧ st'.names = name :: st.names := by
  cases action with
  | char set => exact .inl (Option.some.inj h ▸ rfl)
  | look l => exact .inl (Option.some.inj h ▸ rfl)
  | repetition min max lazy => exact .inl (State.names_repeat? h)
  | alternate => exact .inl (Option.some.inj h ▸ rfl)
  | setFlags flags => exact .inl (Option.some.inj h ▸ rfl)
  | openPlain flags => exact .inl (Option.some.inj h ▸ rfl)
  | openKept => exact .inl (Option.some.inj h ▸ rfl)
  | openNamed name =>
    rw [perform?_openNamed] at h
    split at h
    case isTrue => cases h
    case isFalse hname =>
      exact .inr ⟨name, fun hmem => hname (List.contains_iff_mem.mpr hmem), Option.some.inj h ▸ rfl⟩
  | close => exact .inl (State.names_close? h)

/-- No action forgets a name. -/
theorem Action.suffix_names {action : Action} {st st' : State} (h : action.perform? st = some st') :
    st.names <:+ st'.names := by
  rcases names_eq h with heq | ⟨name, -, heq⟩
  · exact heq ▸ List.suffix_rfl
  · exact heq ▸ List.suffix_cons name st.names

/-- What an action does, it does inside of other groups, unless a name is there twice then. -/
theorem Action.perform?_inside (around : Surroundings) {action : Action} {st st' : State}
    (h : action.perform? st = some st') (hnodup : (st.inside around).names.Nodup) :
    action.perform? (st.inside around) =
      if (st'.inside around).names.Nodup then some (st'.inside around) else none := by
  -- An action that leaves the names as they are cannot fail for a name.
  have hkept (hnames : st'.names = st.names)
      (heq : action.perform? (st.inside around) = some (st'.inside around)) :
      action.perform? (st.inside around) =
        if (st'.inside around).names.Nodup then some (st'.inside around) else none := by
    rw [if_pos (by rwa [State.inside, hnames]), heq]
  cases action with
  | char set =>
    obtain rfl := Option.some.inj h
    exact hkept rfl rfl
  | look l =>
    obtain rfl := Option.some.inj h
    exact hkept rfl rfl
  | repetition min max lazy => exact hkept (State.names_repeat? h) (State.inside_repeat? around h)
  | alternate =>
    obtain rfl := Option.some.inj h
    exact hkept rfl (congrArg some (State.inside_alternate _ _).symm)
  | setFlags flags =>
    obtain rfl := Option.some.inj h
    exact hkept rfl rfl
  | openPlain flags =>
    obtain rfl := Option.some.inj h
    exact hkept rfl rfl
  | openKept =>
    obtain rfl := Option.some.inj h
    exact hkept rfl (congrArg some (State.inside_openKept _ _ _).symm)
  | openNamed name =>
    rw [perform?_openNamed] at h ⊢
    split at h
    case isTrue => cases h
    case isFalse =>
      obtain rfl := Option.some.inj h
      have hnames : ((st.openKept (some name)).inside around).names =
          name :: (st.inside around).names := rfl
      rw [hnames, State.inside_openKept]
      simp only [List.nodup_cons, hnodup, and_true, List.contains_iff_mem, ite_not]
  | close => exact hkept (State.names_close? h) (State.inside_close? around h)

/-! ### Runs of the reader -/

/-- The state behind the rest of an expression. -/
def readState? : Nat → State → Text → Option State
  | 0, _, _ => none
  | fuel + 1, st, s =>
    match st.flags.skip s with
    | [] => some st
    | c :: s => (step? st c s).bind fun (st, s) => readState? fuel st s

/-- Reading to the end is reading a state and finishing it. -/
theorem readRest?_eq (fuel : Nat) (st : State) (s : Text) :
    readRest? fuel st s = (readState? fuel st s).bind State.finish? := by
  induction fuel generalizing st s with
  | zero => rfl
  | succ fuel ih =>
    rw [readRest?, readState?]
    cases st.flags.skip s with
    | nil => rfl
    | cons c rest =>
      simp only [Option.bind_assoc]
      exact congrArg _ (funext fun found => ih found.1 found.2)

/-- Nothing is done at the end of the text. -/
theorem eq_of_readState?_nil {fuel : Nat} {st last : State}
    (h : readState? fuel st [] = some last) : last = st := by
  cases fuel with
  | zero => cases h
  | succ fuel =>
    rw [readState?, st.flags.skip_nil] at h
    exact (Option.some.inj h).symm

/-- What every action keeps, reading keeps. -/
theorem readState?_induction {P : State → Prop}
    (hstep : ∀ (action : Action) st st', P st → action.perform? st = some st' → P st')
    {fuel : Nat} {st last : State} {s : Text} (h : readState? fuel st s = some last) (hst : P st) :
    P last := by
  induction fuel generalizing st s with
  | zero => cases h
  | succ fuel ih =>
    rw [readState?] at h
    split at h
    case h_1 => exact Option.some.inj h ▸ hst
    case h_2 c rest _ =>
      obtain ⟨found, hfound, h⟩ := Option.bind_eq_some_iff.mp h
      rw [step?_eq] at hfound
      obtain ⟨⟨action, behind⟩, -, hperform⟩ := Option.bind_eq_some_iff.mp hfound
      obtain ⟨next, hnext, rfl⟩ := Option.map_eq_some_iff.mp hperform
      exact ih h (hstep action st next hst hnext)

/-- Whoever reads one text from one state comes in `n` steps by another text and another state,
unless a name is there twice by then: reading fails at it. -/
structure Proceeds (n : Nat) (st : State) (s : Text) (st' : State) (s' : Text) : Prop where
  /-- No name is forgotten. -/
  names : st.names <:+ st'.names
  /-- What is read is the same from there. -/
  read_eq : st.names.Nodup → ∀ fuel, readState? (n + fuel) st s =
    if st'.names.Nodup then readState? fuel st' s' else none

namespace Proceeds

variable {m n : Nat} {st st' st'' : State} {s s' s'' : Text}

/-- Blanks and comments at the end do not matter. -/
theorem skip (h : st.flags.skip s = st.flags.skip s') : Proceeds 0 st s st s' := by
  refine ⟨List.suffix_rfl, fun hnodup fuel => ?_⟩
  rw [if_pos hnodup, Nat.zero_add]
  cases fuel with
  | zero => rfl
  | succ fuel => rw [readState?, readState?, h]

/-- No steps lead from a state to itself. -/
theorem refl (st : State) (s : Text) : Proceeds 0 st s st s := skip rfl

/-- Steps can be made one after the other. -/
theorem trans (h : Proceeds m st s st' s') (h' : Proceeds n st' s' st'' s'') :
    Proceeds (m + n) st s st'' s'' := by
  refine ⟨h.names.trans h'.names, fun hnodup fuel => ?_⟩
  rw [Nat.add_assoc, h.read_eq hnodup]
  by_cases hnodup' : st'.names.Nodup
  · rw [if_pos hnodup', h'.read_eq hnodup']
  · rw [if_neg hnodup', if_neg (mt (List.Nodup.sublist h'.names.sublist) hnodup')]

/-- A step leads where it is known to lead. -/
theorem step {c : Char} {rest : Text} (hskip : st.flags.skip s = c :: rest)
    (hnames : st.names <:+ st'.names)
    (h : st.names.Nodup → step? st c rest = if st'.names.Nodup then some (st', s') else none) :
    Proceeds 1 st s st' s' := by
  refine ⟨hnames, fun hnodup fuel => ?_⟩
  rw [Nat.add_comm, readState?, hskip]
  dsimp only
  rw [h hnodup]
  split <;> rfl

/-- A step that adds no name leads where it is known to lead. -/
theorem step_of_names_eq {c : Char} {rest : Text} (hskip : st.flags.skip s = c :: rest)
    (hnames : st'.names = st.names) (h : step? st c rest = some (st', s')) :
    Proceeds 1 st s st' s' := by
  refine step hskip (hnames ▸ List.suffix_rfl) fun hnodup => ?_
  rw [if_pos (hnames ▸ hnodup), h]

/-- A parenthesis closes the group. -/
theorem close (h : st.close? = some st') (t : Text) : Proceeds 1 st (')' :: t) st' t := by
  refine step_of_names_eq ((Leaves.all rfl).skip_eq st.flags) (State.names_close? h) ?_
  have hstep : step? st ')' t = st.close?.map (·, t) := rfl
  rw [hstep, h, Option.map_some]

/-- What is read to the end in few enough steps. -/
theorem readState?_eq (h : Proceeds n st s st' []) (hnodup : st.names.Nodup) {fuel : Nat}
    (hfuel : n < fuel) : readState? fuel st s = if st'.names.Nodup then some st' else none := by
  obtain ⟨k, rfl⟩ := Nat.exists_eq_add_of_lt hfuel
  rw [Nat.add_assoc, h.read_eq hnodup, readState?, st'.flags.skip_nil]

end Proceeds

/-! ### Expressions in a group -/

/-- **What is read on its own is read inside of other groups**, with a parenthesis behind it that a
comment at its end takes up. -/
theorem exists_proceeds_inside {fuel : Nat} {st last : State} {s : Text}
    (h : readState? fuel st s = some last) :
    ∃ n < fuel, ∃ comment, ∀ around t t', Leaves comment t t' →
      Proceeds n (st.inside around) (s ++ t) (last.inside around) t' := by
  induction fuel generalizing st s with
  | zero => cases h
  | succ fuel ih =>
    rw [readState?] at h
    obtain ⟨comment, hcomment, hskips⟩ := st.flags.exists_skip_append s
    cases hskip : st.flags.skip s with
    | nil =>
      simp only [hskip] at h
      have heq := Option.some.inj h
      subst heq
      refine ⟨0, Nat.succ_pos _, comment, fun around t t' hleaves => Proceeds.skip ?_⟩
      have hflags : (st.inside around).flags = st.flags := rfl
      rw [hflags, hskips t t' hleaves, hskip, hleaves.skip_eq]
      rfl
    | cons c rest =>
      simp only [hskip] at h
      obtain ⟨found, hstep, h⟩ := Option.bind_eq_some_iff.mp h
      rw [step?_eq] at hstep
      obtain ⟨⟨action, behind⟩, haction, hperform⟩ := Option.bind_eq_some_iff.mp hstep
      obtain ⟨next, hnext, rfl⟩ := Option.map_eq_some_iff.mp hperform
      dsimp only at h hnext
      obtain ⟨comment', hbehind, hread⟩ := exists_readAction?_append haction
      have hproceeds (around : Surroundings) (t t' : Text) (hleaves : Leaves comment' t t') :
          Proceeds 1 (st.inside around) (s ++ t) (next.inside around) (behind ++ t') := by
        have hnames := Action.suffix_names hnext
        refine Proceeds.step (Flags.skip_append hskip t) ?_ fun hnodup => ?_
        · exact (List.suffix_append_inj_of_length_eq rfl).mpr ⟨hnames, rfl⟩
        · rw [step?_eq, show (st.inside around).flags = st.flags from rfl, hread t t' hleaves,
            Option.bind_some, Action.perform?_inside around hnext hnodup]
          split <;> rfl
      -- Only an action that nothing follows may be followed by a comment that goes on.
      cases comment' with
      | false =>
        obtain ⟨n, hn, comment'', hrest⟩ := ih h
        refine ⟨1 + n, by omega, comment'', fun around t t' hleaves => ?_⟩
        exact (hproceeds around t t (.all hleaves.head?_eq)).trans (hrest around t t' hleaves)
      | true =>
        obtain rfl := hbehind rfl
        have hfuel : 1 < fuel + 1 := by
          cases fuel with
          | zero => cases h
          | succ fuel => omega
        obtain rfl := eq_of_readState?_nil h
        exact ⟨1, hfuel, true, fun around t t' hleaves => hproceeds around t t' hleaves⟩

/-- What compiles is read as its expression. -/
theorem read?_of_compile? {source : Text} {r : Regex} (h : compile? source = some r) :
    Expr.read? source = some r.expr := by
  unfold compile? at h
  split at h
  case h_1 expr hread =>
    obtain rfl := Option.some.inj h
    exact hread
  case h_2 => cases h

/-- An expression that compiles is that of the state behind it. -/
theorem exists_readState? {source : Text} {r : Regex} (h : compile? source = some r) :
    ∃ last, readState? (source.length + 1) {} source = some last ∧ last.outer = [] ∧
      last.level.expr = r.expr := by
  have hread := read?_of_compile? h
  rw [Expr.read?, readRest?_eq] at hread
  obtain ⟨last, hlast, hfinish⟩ := Option.bind_eq_some_iff.mp hread
  unfold State.finish? at hfinish
  split at hfinish
  case isTrue houter =>
    exact ⟨last, hlast, List.isEmpty_iff.mp houter, Option.some.inj hfinish⟩
  case isFalse => cases hfinish

/-- An expression is closed if it can be read between parentheses: it does not end in a comment that
takes up the second one. -/
def IsClosed (source : Text) : Prop := (compile? ("(?:".toList ++ source ++ [')'])).isSome

section Names

/-- The numbers of the groups of a level that have a name, with that name. -/
def Level.groupNames (l : Level) : List (Nat × Text) :=
  (l.pieces ++ l.branches).flatMap Expr.groupNames

/-- The numbers of the groups of an open group that have a name, with that name. -/
def OpenGroup.groupNames (g : OpenGroup) : List (Nat × Text) :=
  (g.kept.bind fun (index, name) => name.map (index, ·)).toList ++ g.level.groupNames

/-- The numbers of the groups of a state that have a name, with that name. -/
def State.groupNames (st : State) : List (Nat × Text) :=
  st.level.groupNames ++ st.outer.flatMap OpenGroup.groupNames

variable {entry : Nat × Text}

/-- The names of a level are kept when its expression is made. -/
theorem Level.mem_groupNames_expr {l : Level} (h : entry ∈ l.expr.groupNames) :
    entry ∈ l.groupNames := by
  have hfoldl {branches : List Expr} {e : Expr}
      (h : entry ∈ (branches.foldl (fun e branch => .alt branch e) e).groupNames) :
      entry ∈ e.groupNames ∨ entry ∈ branches.flatMap Expr.groupNames := by
    induction branches generalizing e with
    | nil => exact .inl h
    | cons branch branches ih =>
      rw [List.flatMap_cons, List.mem_append]
      rcases ih h with h | h
      · rcases List.mem_append.mp h with h | h
        · exact .inr (.inl h)
        · exact .inl h
      · exact .inr (.inr h)
  rw [groupNames, List.flatMap_append, List.mem_append]
  rcases hfoldl h with h | h
  · rw [Expr.groupNames_concat, List.mem_flatMap] at h
    obtain ⟨e, he, h⟩ := h
    exact .inl (List.mem_flatMap.mpr ⟨e, List.mem_reverse.mp he, h⟩)
  · exact .inr h

/-- A further piece adds the names of its groups. -/
theorem State.mem_groupNames_push {st : State} {e : Expr} :
    entry ∈ (st.push e).groupNames ↔ entry ∈ e.groupNames ∨ entry ∈ st.groupNames := by
  simp only [groupNames, push, Level.groupNames, List.cons_append, List.flatMap_cons,
    List.mem_append, or_assoc]

/-- A repetition adds no names. -/
theorem State.mem_groupNames_repeat? {st st' : State} {min : Nat} {max : Option Nat} {lazy : Bool}
    (h : st.repeat? min max lazy = some st') (hentry : entry ∈ st'.groupNames) :
    entry ∈ st.groupNames := by
  unfold repeat? at h
  split at h
  case h_1 e pieces _ hpieces =>
    obtain rfl := Option.some.inj h
    simp only [groupNames, Level.groupNames, hpieces, List.cons_append, List.flatMap_cons,
      List.mem_append, or_assoc] at hentry ⊢
    exact hentry.imp Expr.mem_groupNames_loop id
  case h_2 => cases h

/-- A further branch adds no names. -/
theorem State.mem_groupNames_alternate {st : State} :
    entry ∈ st.alternate.groupNames ↔ entry ∈ st.groupNames := by
  simp [groupNames, alternate, Level.groupNames, Expr.groupNames_concat]

/-- Closing a group adds no names. -/
theorem State.mem_groupNames_close? {st st' : State} (h : st.close? = some st')
    (hentry : entry ∈ st'.groupNames) : entry ∈ st.groupNames := by
  unfold close? at h
  split at h
  case h_1 => cases h
  case h_2 group outer houter =>
    obtain rfl := Option.some.inj h
    rw [groupNames, houter, List.flatMap_cons, OpenGroup.groupNames]
    rcases mem_groupNames_push.mp hentry with hpiece | hrest
    · have hpiece : entry ∈ (group.kept.bind fun (index, name) => name.map (index, ·)).toList ∨
          entry ∈ st.level.expr.groupNames := by
        cases hkept : group.kept with
        | none =>
          rw [hkept] at hpiece
          exact .inr hpiece
        | some kept =>
          rw [hkept] at hpiece
          exact List.mem_append.mp hpiece
      rcases hpiece with hname | hlevel
      · simp [hname]
      · simp [Level.mem_groupNames_expr hlevel]
    · have hrest : entry ∈ group.level.groupNames ∨ entry ∈ outer.flatMap OpenGroup.groupNames :=
        List.mem_append.mp hrest
      rcases hrest with hgroup | houter
      · simp [hgroup]
      · simp only [List.mem_append, houter, or_true]

/-- An action adds no group with a name that is not kept in mind. -/
theorem Action.mem_groupNames {action : Action} {st st' : State}
    (h : action.perform? st = some st') (hentry : entry ∈ st'.groupNames) :
    entry ∈ st.groupNames ∨ entry.2 ∈ st'.names := by
  cases action with
  | char set =>
    obtain rfl := Option.some.inj h
    exact .inl ((State.mem_groupNames_push.mp hentry).resolve_left List.not_mem_nil)
  | look l =>
    obtain rfl := Option.some.inj h
    exact .inl ((State.mem_groupNames_push.mp hentry).resolve_left List.not_mem_nil)
  | repetition min max lazy => exact .inl (State.mem_groupNames_repeat? h hentry)
  | alternate =>
    obtain rfl := Option.some.inj h
    exact .inl (State.mem_groupNames_alternate.mp hentry)
  | setFlags flags =>
    obtain rfl := Option.some.inj h
    exact .inl hentry
  | openPlain flags =>
    obtain rfl := Option.some.inj h
    exact .inl (by simpa [State.groupNames, State.openPlain, Level.groupNames,
      OpenGroup.groupNames] using hentry)
  | openKept =>
    obtain rfl := Option.some.inj h
    exact .inl (by simpa [State.groupNames, State.openKept, Level.groupNames,
      OpenGroup.groupNames] using hentry)
  -- The one action that brings a name.
  | openNamed name =>
    rw [perform?_openNamed] at h
    split at h
    case isTrue => cases h
    case isFalse =>
      obtain rfl := Option.some.inj h
      have hentry : entry = (st.groupCount + 1, name) ∨ entry ∈ st.groupNames := by
        simpa [State.groupNames, State.openKept, Level.groupNames, OpenGroup.groupNames]
          using hentry
      rcases hentry with rfl | hentry
      · exact .inr List.mem_cons_self
      · exact .inl hentry
  | close => exact .inl (State.mem_groupNames_close? h hentry)

/-- The groups of a state have names that are kept in mind, each of them once. -/
structure State.IsNamed (st : State) : Prop where
  /-- The groups have names that are kept in mind. -/
  mem : ∀ entry ∈ st.groupNames, entry.2 ∈ st.names
  /-- No name is there twice. -/
  nodup : st.names.Nodup

/-- Every action keeps the groups and the list of their names in agreement. -/
theorem State.IsNamed.perform? {action : Action} {st st' : State} (hst : st.IsNamed)
    (h : action.perform? st = some st') : st'.IsNamed := by
  have hsubset : st.names ⊆ st'.names := (Action.suffix_names h).subset
  refine ⟨fun entry hentry => ?_, ?_⟩
  · rcases Action.mem_groupNames h hentry with hmem | hname
    · exact hsubset (hst.mem entry hmem)
    · exact hname
  · rcases Action.names_eq h with heq | ⟨name, hname, heq⟩
    · exact heq ▸ hst.nodup
    · exact heq ▸ List.nodup_cons.mpr ⟨hname, hst.nodup⟩

/-- What is read from the start has its names. -/
theorem isNamed_of_readState? {fuel : Nat} {last : State} {s : Text}
    (h : readState? fuel {} s = some last) : last.IsNamed :=
  readState?_induction (fun _ _ _ hst h => hst.perform? h) h ⟨by simp [State.groupNames,
    Level.groupNames], List.nodup_nil⟩

end Names

/-! ### Expressions that are valid -/

/-- An expression compiles if it is read to its end and no group is open there. -/
theorem isSome_compile?_iff {source : Text} : (compile? source).isSome ↔
    ∃ last, readState? (source.length + 1) {} source = some last ∧ last.outer = [] := by
  constructor
  · intro h
    obtain ⟨r, hr⟩ := Option.isSome_iff_exists.mp h
    obtain ⟨last, hlast, houter, -⟩ := exists_readState? hr
    exact ⟨last, hlast, houter⟩
  · rintro ⟨last, hlast, houter⟩
    have hread : Expr.read? source = some last.level.expr := by
      rw [Expr.read?, readRest?_eq, hlast, Option.bind_some, State.finish?, houter]
      rfl
    unfold compile?
    split
    case h_1 => rfl
    case h_2 hnone => rw [hread] at hnone; cases hnone

/-- **An expression is read inside of other groups to the end of it if it is closed**, and otherwise
to the end of the line behind it. -/
theorem exists_proceeds {source : Text} {last : State}
    (h : readState? (source.length + 1) {} source = some last) (houter : last.outer = []) :
    ∃ n ≤ source.length, ∃ comment, (comment = false ↔ IsClosed source) ∧
      ∀ around t t', Leaves comment t t' →
        Proceeds n (({} : State).inside around) (source ++ t) (last.inside around) t' := by
  obtain ⟨n, hn, comment, hproceeds⟩ := exists_proceeds_inside h
  refine ⟨n, Nat.le_of_lt_succ hn, comment, ?_, hproceeds⟩
  -- Being closed is being read to the end between parentheses.
  let parentheses : Surroundings := ⟨[⟨{}, {}, none⟩], 0, []⟩
  have hnodup : (last.inside parentheses).names.Nodup := by
    rw [State.inside, List.append_nil]
    exact (isNamed_of_readState? h).nodup
  have hopen : Proceeds 1 {} ("(?:".toList ++ source ++ [')']) (({} : State).inside parentheses)
      (source ++ [')']) := by
    have hskip : ({} : Flags).skip ("(?:".toList ++ source ++ [')']) =
        '(' :: '?' :: ':' :: (source ++ [')']) := rfl
    exact Proceeds.step_of_names_eq hskip rfl rfl
  have hlength : ("(?:".toList ++ source ++ [')']).length = source.length + 4 := by
    simp
  rw [IsClosed, isSome_compile?_iff, hlength]
  cases comment with
  | false =>
    refine iff_of_true rfl ?_
    obtain ⟨closed, hclosed, hclosedOuter⟩ :
        ∃ closed, (last.inside parentheses).close? = some closed ∧ closed.outer = [] := by
      simp [State.close?, State.inside, houter, parentheses, State.push]
    have hread := ((hopen.trans (hproceeds parentheses _ _ (.all rfl))).trans
      (Proceeds.close hclosed [])).readState?_eq List.nodup_nil
      (by omega : 1 + n + 1 < source.length + 4 + 1)
    rw [State.names_close? hclosed, if_pos hnodup] at hread
    exact ⟨closed, hread, hclosedOuter⟩
  | true =>
    -- Nothing is left that closes the group around the expression.
    refine iff_of_false (by decide) ?_
    rintro ⟨final, hfinal, hfinalOuter⟩
    have hread := (hopen.trans (hproceeds parentheses _ _ (.nothing rfl (by decide)))).readState?_eq
      List.nodup_nil (by omega : 1 + n < source.length + 4 + 1)
    rw [hfinal, if_pos hnodup] at hread
    rw [Option.some.inj hread, State.inside, houter] at hfinalOuter
    cases hfinalOuter

end Regex
end Routing
