/-
# Names that occur more than once

Segments in which a parameter name occurs more than once are no pattern, whatever else is wrong with
them.  The failure lists each of these names once, in the order in which they come up for the second
time (`compile_repetition`).

That is the order in which they come up first just if no repeated name overtakes another one: of
`a`, `b`, `b` and `a`, the list has `b` before `a` (`compile_overtaken`).

Names are compared by how often they have come up so far.  A name comes up for the `n`-th time
before another does if some part of the sequence at the front has it `n` times and the other one
less often (`ComesUpBefore`).  The list is made in one pass over the names, with those that were
seen before, and its properties hold for any names seen before.
-/

import Routing.Proofs.Pattern.Matching

namespace Routing
namespace Token

/-- The first name comes up for the `n`-th time before the second one does. -/
def ComesUpBefore (n : Nat) (sequence : List Text) (a b : Text) : Prop :=
  ∃ front, front <+: sequence ∧ n ≤ front.count a ∧ front.count b < n

/-- The names that occur more than once in a sequence, each once, in the order in which they come up
for the `n`-th time. -/
structure ListsRepeated (n : Nat) (sequence names : List Text) : Prop where
  /-- No name is listed twice. -/
  nodup : names.Nodup
  /-- The names are those that occur more than once. -/
  mem_iff : ∀ name, name ∈ names ↔ 2 ≤ sequence.count name
  /-- The names are in order. -/
  ordered : names.Pairwise (ComesUpBefore n sequence)

section Order

variable {n : Nat} {sequence : List Text} {a b : Text}

/-- Of two names, not each comes up before the other. -/
theorem ComesUpBefore.asymm (h : ComesUpBefore n sequence a b) : ¬ComesUpBefore n sequence b a := by
  rintro ⟨back, hback, hb, ha⟩
  obtain ⟨front, hfront, ha', hb'⟩ := h
  rcases List.prefix_or_prefix_of_prefix hfront hback with hprefix | hprefix
  · have := hprefix.sublist.count_le a
    omega
  · have := hprefix.sublist.count_le b
    omega

/-- No name comes up before itself. -/
theorem not_comesUpBefore_self : ¬ComesUpBefore n sequence a a := fun h => h.asymm h

/-- What comes up first does so whatever follows. -/
theorem ComesUpBefore.append (h : ComesUpBefore n sequence a b) (rest : List Text) :
    ComesUpBefore n (sequence ++ rest) a b := by
  obtain ⟨front, hfront, h⟩ := h
  exact ⟨front, hfront.trans (List.prefix_append _ _), h⟩

/-- Of two names that occur `n` times, one comes up for the `n`-th time before the other. -/
theorem comesUpBefore_or (hn : 0 < n) (hne : a ≠ b) (ha : n ≤ sequence.count a)
    (hb : n ≤ sequence.count b) : ComesUpBefore n sequence a b ∨ ComesUpBefore n sequence b a := by
  induction sequence using List.reverseRecOn with
  | nil => exact absurd (Nat.lt_of_lt_of_le hn ha) (Nat.lt_irrefl 0)
  | append_singleton sequence name ih =>
    by_cases ha' : n ≤ sequence.count a
    · by_cases hb' : n ≤ sequence.count b
      · exact (ih ha' hb').imp (·.append _) (·.append _)
      · exact .inl ⟨sequence, List.prefix_append _ _, ha', Nat.not_le.mp hb'⟩
    · by_cases hb' : n ≤ sequence.count b
      · exact .inr ⟨sequence, List.prefix_append _ _, hb', Nat.not_le.mp ha'⟩
      · -- One more name cannot be both.
        rw [List.count_append, List.count_singleton] at ha hb
        have hname : name = a := by
          by_contra h
          rw [if_neg (by simpa using h)] at ha
          omega
        have hname' : name = b := by
          by_contra h
          rw [if_neg (by simpa using h)] at hb
          omega
        exact absurd (hname.symm.trans hname') hne

/-- Repeated names that are listed as they come up for the second time are listed as they come up
first just if none overtakes another one. -/
theorem ListsRepeated.first_iff {names : List Text} (h : ListsRepeated 2 sequence names) :
    ListsRepeated 1 sequence names ↔
      ∀ a ∈ names, ∀ b ∈ names, ComesUpBefore 1 sequence a b → ComesUpBefore 2 sequence a b := by
  constructor
  · intro hfirst
    have hboth := hfirst.ordered.and h.ordered
    refine List.Pairwise.forall_of_forall_of_flip ?_ ?_ ?_
    · exact fun _ _ hself => absurd hself not_comesUpBefore_self
    · exact hboth.imp fun hlisted _ => hlisted.2
    · exact hboth.imp fun hlisted hback => absurd hback hlisted.1.asymm
  · intro hkept
    refine ⟨h.nodup, h.mem_iff, (h.nodup.and h.ordered).imp_of_mem ?_⟩
    rintro a b ha hb ⟨hne, hab⟩
    refine (comesUpBefore_or Nat.one_pos hne ?_ ?_).resolve_right fun hba => ?_
    · exact Nat.le_of_succ_le ((h.mem_iff a).mp ha)
    · exact Nat.le_of_succ_le ((h.mem_iff b).mp hb)
    · exact hab.asymm (hkept b hb a ha hba)

end Order

section Listing

variable (seen names : List Text)

/-- A name is listed if it comes up for the second time. -/
theorem mem_repeatedNames (name : Text) :
    name ∈ repeatedNames seen names ↔
      seen.count name < 2 ∧ 2 ≤ seen.count name + names.count name := by
  induction names generalizing seen with
  | nil => simp [repeatedNames]
  | cons first names ih =>
    have hseen := List.count_cons (a := name) (b := first) (l := seen)
    have hnames := List.count_cons (a := name) (b := first) (l := names)
    rw [repeatedNames]
    by_cases heq : first = name
    · subst heq
      rw [if_pos (beq_self_eq_true first)] at hseen hnames
      split
      case isTrue hone => exact iff_of_true List.mem_cons_self ⟨by omega, by omega⟩
      case isFalse hone =>
        rw [ih, hseen, hnames]
        omega
    · rw [if_neg (by simpa using heq), Nat.add_zero] at hseen hnames
      split
      case isTrue => rw [List.mem_cons, or_iff_right (Ne.symm heq), ih, hseen, hnames]
      case isFalse => rw [ih, hseen, hnames]

/-- No name is listed twice. -/
theorem nodup_repeatedNames : (repeatedNames seen names).Nodup := by
  induction names generalizing seen with
  | nil => exact List.nodup_nil
  | cons name names ih =>
    rw [repeatedNames]
    split
    case isTrue hone =>
      refine List.nodup_cons.mpr ⟨fun hmem => ?_, ih _⟩
      have := ((mem_repeatedNames _ _ _).mp hmem).1
      rw [List.count_cons_self] at this
      omega
    case isFalse => exact ih _

/-- A name is listed when it comes up again, so before those that do so later. -/
theorem pairwise_repeatedNames :
    (repeatedNames seen names).Pairwise (ComesUpBefore 2 (seen.reverse ++ names)) := by
  induction names generalizing seen with
  | nil => exact List.Pairwise.nil
  | cons name names ih =>
    have htail := ih (name :: seen)
    rw [List.reverse_cons, List.append_assoc, List.singleton_append] at htail
    rw [repeatedNames]
    split
    case isTrue hone =>
      refine List.pairwise_cons.mpr ⟨fun other hother => ?_, htail⟩
      have htwice : (name :: seen).reverse.count name = 2 := by
        rw [List.count_reverse, List.count_cons_self, hone]
      refine ⟨(name :: seen).reverse, ⟨names, by simp⟩, Nat.le_of_eq htwice.symm, ?_⟩
      rw [List.count_reverse]
      exact ((mem_repeatedNames _ _ _).mp hother).1
    case isFalse => exact htail

/-- The list has the repeated names in the order in which they come up for the second time. -/
theorem listsRepeated_repeatedNames : ListsRepeated 2 names (repeatedNames [] names) where
  nodup := nodup_repeatedNames [] names
  mem_iff name := by simp [mem_repeatedNames]
  ordered := pairwise_repeatedNames [] names

end Listing

/-- Compiling tokens never fails with repeated names: these are looked for before. -/
theorem compile_ne_duplicateParameters (tokens : List Token) (names : List Text) :
    compile tokens ≠ .error (.duplicateParameters names) := by
  unfold compile
  split
  · simp
  · split
    · simp
    · split <;> simp

end Token

namespace Pattern

/-- The names of the parameters of segments, in order. -/
def parameterNames (segments : List Segment) : List Text :=
  (Token.params (segments.flatMap Segment.tokens)).map Param.name

/-- Segments fail with repeated names just if there are some, and then with all of them. -/
theorem compile_eq_duplicateParameters_iff {segments : List Segment} {names : List Text} :
    compile segments = .error (.duplicateParameters names) ↔
      names ≠ [] ∧ names = Token.repeatedNames [] (parameterNames segments) := by
  rw [parameterNames, ← params_rooted_join, compile]
  unfold ofTokens
  split
  case h_1 hnil =>
    refine iff_of_false ?_ fun h => h.1 (h.2.trans hnil)
    split
    · simp
    case h_2 e he =>
      intro h
      exact Token.compile_ne_duplicateParameters _ names (Except.error.inj h ▸ he)
  case h_2 found hne =>
    rw [Except.error.injEq, CompileError.duplicateParameters.injEq]
    exact ⟨fun h => ⟨h ▸ hne, h.symm⟩, fun h => h.2.symm⟩

/-- **Repeated names are listed as they come up for the second time.**  Segments fail with a list of
names just if a name occurs more than once, and the list has each such name once.  They are listed
as they come up first just if none of them overtakes another one. -/
theorem compile_repetition (segments : List Segment) :
    ((∃ names, compile segments = .error (.duplicateParameters names)) ↔
      ∃ name, 2 ≤ (parameterNames segments).count name) ∧
    ∀ names, compile segments = .error (.duplicateParameters names) →
      Token.ListsRepeated 2 (parameterNames segments) names ∧
      (Token.ListsRepeated 1 (parameterNames segments) names ↔
        ∀ a ∈ names, ∀ b ∈ names, Token.ComesUpBefore 1 (parameterNames segments) a b →
          Token.ComesUpBefore 2 (parameterNames segments) a b) := by
  have hlisted := Token.listsRepeated_repeatedNames (parameterNames segments)
  simp only [compile_eq_duplicateParameters_iff]
  refine ⟨⟨?_, ?_⟩, ?_⟩
  · rintro ⟨names, hne, rfl⟩
    obtain ⟨name, hname⟩ := List.exists_mem_of_ne_nil _ hne
    exact ⟨name, (hlisted.mem_iff name).mp hname⟩
  · rintro ⟨name, hname⟩
    exact ⟨_, List.ne_nil_of_mem ((hlisted.mem_iff name).mpr hname), rfl⟩
  · rintro names ⟨-, rfl⟩
    exact ⟨hlisted, hlisted.first_iff⟩

/-- Parameters of strings with the given names. -/
def strings (names : List Text) : List Segment := names.map fun name => .param ⟨name, .string⟩

/-- Of `a`, `b`, `b` and `a`, the name that is repeated sooner is listed first. -/
theorem compile_overtaken :
    compile (strings [['a'], ['b'], ['b'], ['a']]) =
      .error (.duplicateParameters [['b'], ['a']]) ∧
    ¬Token.ListsRepeated 1 (parameterNames (strings [['a'], ['b'], ['b'], ['a']]))
      [['b'], ['a']] := by
  refine ⟨rfl, fun h => ?_⟩
  have hfirst : Token.ComesUpBefore 1 [['a'], ['b'], ['b'], ['a']] ['a'] ['b'] :=
    ⟨[['a']], List.prefix_append [['a']] _, by decide, by decide⟩
  exact hfirst.asymm (List.pairwise_pair.mp h.ordered)

end Pattern
end Routing
