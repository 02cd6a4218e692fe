/-
# The groups of parameters

Matchers may have groups of their own, with names, and flags.  As long as none of them ends in a
comment that takes up the parenthesis behind it (`Regex.IsClosed`), the expression of a pattern is
made up of the expressions of its matchers, each in the group of its parameter (`Token.Assembles`),
and the groups are found by their names (`Pattern.compile_assembles`).
-/

import Routing.Proofs.Pattern.Matching

namespace Routing
namespace Token

/-- The names of the groups of pieces tell which group is the one of a parameter. -/
structure Finds (i : Nat) (pieces : List Regex.Expr) (groups : List Nat) (names : List Text) :
    Prop where
  /-- The groups of parameters have their names. -/
  named : ∀ j < groups.length, groupName (i + j) ∈ names
  /-- All groups have names that are known. -/
  mem : ∀ entry ∈ pieces.flatMap Regex.Expr.groupNames, entry.2 ∈ names
  /-- The first group with the name of a parameter is its own. -/
  find?_eq : names.Nodup → ∀ j < groups.length,
    (pieces.flatMap Regex.Expr.groupNames).find? (·.2 == groupName (i + j)) =
      groups[j]?.map (·, groupName (i + j))

/-- Literals in front hold no groups, so the groups are found where they were. -/
theorem Finds.literal {i : Nat} {pieces : List Regex.Expr} {groups : List Nat} {names : List Text}
    (h : Finds i pieces groups names) (s : Text) :
    Finds i (Regex.literalPieces s ++ pieces) groups names := by
  have hflatMap : (Regex.literalPieces s ++ pieces).flatMap Regex.Expr.groupNames =
      pieces.flatMap Regex.Expr.groupNames := by
    rw [List.flatMap_append, List.flatMap_eq_nil_iff.mpr, List.nil_append]
    simp [Regex.literalPieces, Regex.Expr.groupNames]
  exact ⟨h.named, hflatMap ▸ h.mem, hflatMap ▸ h.find?_eq⟩

/-- A parameter in front, whose matcher has other names. -/
theorem Finds.param {i : Nat} {pieces : List Regex.Expr} {groups : List Nat}
    {names own : List Text} (h : Finds (i + 1) pieces groups names) (n : Nat) {e : Regex.Expr}
    (hown : ∀ entry ∈ e.groupNames, entry.2 ∈ own) :
    Finds i (.group n (some (groupName i)) e :: pieces) (n :: groups)
      (names ++ (own ++ [groupName i])) := by
  have hsucc (j : Nat) : i + (j + 1) = i + 1 + j := by omega
  have hflatMap : (Regex.Expr.group n (some (groupName i)) e :: pieces).flatMap
      Regex.Expr.groupNames =
      ((n, groupName i) :: e.groupNames) ++ pieces.flatMap Regex.Expr.groupNames := rfl
  have hgroup : ∀ entry ∈ (n, groupName i) :: e.groupNames, entry.2 ∈ own ++ [groupName i] := by
    intro entry hentry
    rcases List.mem_cons.mp hentry with rfl | hentry
    · simp
    · exact List.mem_append_left _ (hown entry hentry)
  refine ⟨fun j hj => ?_, fun entry hentry => ?_, fun hnodup j hj => ?_⟩
  · cases j with
    | zero => simp
    | succ j =>
      rw [hsucc]
      exact List.mem_append_left _ (h.named j (Nat.lt_of_succ_lt_succ hj))
  · rw [hflatMap] at hentry
    rcases List.mem_append.mp hentry with hentry | hentry
    · exact List.mem_append_right _ (hgroup entry hentry)
    · exact List.mem_append_left _ (h.mem entry hentry)
  · rw [hflatMap]
    cases j with
    | zero => simp
    | succ j =>
      have hj := Nat.lt_of_succ_lt_succ hj
      obtain ⟨hnodup, -, hdisjoint⟩ := List.nodup_append.mp hnodup
      -- Neither the group in front nor those of its matcher have the name of another parameter.
      have hnone : ((n, groupName i) :: e.groupNames).find? (·.2 == groupName (i + 1 + j)) =
          none := by
        rw [List.find?_eq_none]
        intro entry hentry heq
        exact hdisjoint _ (h.named j hj) _ (hgroup entry hentry) (beq_iff_eq.mp heq).symm
      rw [hsucc, List.find?_append, hnone, Option.none_or, h.find?_eq hnodup j hj]
      rfl

/-- The groups of assembled pieces are found. -/
theorem Assembles.finds {i n : Nat} {tokens : List Token} {pieces : List Regex.Expr}
    {groups : List Nat} (h : Assembles i n tokens pieces groups) :
    Finds i pieces groups (groupNamesFrom i (params tokens)) := by
  induction h with
  | nil => exact ⟨by simp, by simp, by simp⟩
  | literal h ih => exact ih.literal _
  | @param i n k p m tokens pieces groups hmatcher hcount h ih =>
    obtain ⟨last, hlast, -, hexpr⟩ := Regex.exists_readState? hmatcher
    refine ih.param (n + 1) fun entry hentry => ?_
    rw [Regex.Expr.groupNames_shift] at hentry
    obtain ⟨own, hown, rfl⟩ := List.mem_map.mp hentry
    rw [← hexpr] at hown
    rw [Regex.sourceNames_of_readState? hlast]
    exact (Regex.isNamed_of_readState? hlast).mem own
      (List.mem_append_left _ (Regex.Level.mem_groupNames_expr hown))

/-- The expression that closed matchers make up with the tokens. -/
theorem assembles_of_compile? {tokens : List Token}
    (hmatchers : ∀ p ∈ params tokens, (Regex.compile? p.decoder.matcher).isSome ∧
      Regex.IsClosed p.decoder.matcher) {r : Regex} (hr : Regex.compile? (source tokens) = some r) :
    ∃ pieces groups, Assembles 0 0 tokens pieces groups ∧
      r.expr = .concat (.look .textStart :: pieces ++ [.look .textEnd]) ∧
      ∀ i < groups.length, r.expr.groupIndex? (groupName i) = groups[i]? := by
  obtain ⟨final, hfinal, -, hexpr⟩ := Regex.exists_readState? hr
  obtain ⟨pieces, groups, n, hassembles, hread⟩ := exists_readState?_source hmatchers
  rw [hfinal, eq_comm, Option.ite_none_right_eq_some] at hread
  obtain ⟨hnodup, hread⟩ := hread
  have hexpr : r.expr = .concat (.look .textStart :: pieces ++ [.look .textEnd]) := by
    rw [← hexpr, ← Option.some.inj hread]
    simp [Regex.State.after, Regex.Level.expr]
  refine ⟨pieces, groups, hassembles, hexpr, fun i hi => ?_⟩
  have hfind := hassembles.finds.find?_eq hnodup i hi
  rw [Nat.zero_add] at hfind
  have hnames : r.expr.groupNames = pieces.flatMap Regex.Expr.groupNames := by
    rw [hexpr, Regex.Expr.groupNames_concat]
    simp [Regex.Expr.groupNames]
  rw [Regex.Expr.groupIndex?, hnames, hfind, Option.map_map]
  exact Option.map_id'

/-- **Closed matchers keep their groups**, whatever is in them. -/
theorem compile_assembles {tokens : List Token}
    (hclosed : ∀ p ∈ params tokens, Regex.IsClosed p.decoder.matcher) :
    compile tokens ≠ .error .lostGroup ∧
    ∀ r groups, compile tokens = .ok (r, groups) →
      (∃ pieces, Assembles 0 0 tokens pieces groups ∧
        r.expr = .concat (.look .textStart :: pieces ++ [.look .textEnd])) ∧
      ∀ i < groups.length, r.expr.groupIndex? (groupName i) = groups[i]? := by
  unfold compile
  cases hfind : (params tokens).find? fun p => (Regex.compile? p.decoder.matcher).isNone with
  | some p => exact ⟨by simp, by simp⟩
  | none =>
    have hmatchers : ∀ p ∈ params tokens, (Regex.compile? p.decoder.matcher).isSome ∧
        Regex.IsClosed p.decoder.matcher := fun p hp => by
      have := List.find?_eq_none.mp hfind p hp
      exact ⟨Option.isSome_iff_ne_none.mpr (by simpa using this), hclosed p hp⟩
    cases hr : Regex.compile? (source tokens) with
    | none => exact ⟨by simp, by simp⟩
    | some r =>
      obtain ⟨pieces, groups, hassembles, hexpr, hindex⟩ := assembles_of_compile? hmatchers hr
      -- Every group that is looked up is found, so that no group is lost.
      have hgroups : ((List.range (params tokens).length).mapM fun i =>
          r.expr.groupIndex? (groupName i)) = some groups := by
        rw [← hassembles.length_eq]
        exact mapM_range_eq_some hindex
      simp only [hgroups]
      refine ⟨by simp, fun r' groups' h => ?_⟩
      cases h
      exact ⟨⟨pieces, hassembles, hexpr⟩, hindex⟩

end Token

namespace Pattern

/-- Tokens that are no pattern do not compile, or repeat a name. -/
theorem compile_of_ofTokens {tokens : List Token} {e : CompileError}
    (h : ofTokens tokens = .error e) :
    Token.compile tokens = .error e ∨ ∃ names, e = .duplicateParameters names := by
  unfold ofTokens at h
  split at h
  case h_1 =>
    split at h
    case h_1 => cases h
    case h_2 e' he' => exact .inl (Except.error.inj h ▸ he')
  case h_2 => exact .inr ⟨_, (Except.error.inj h).symm⟩

/-- **Segments with closed matchers compile to a pattern that knows the groups of its parameters, or
fail in a way that tells why.**  However many groups the matchers bring along, those of the
parameters increase, and the one that is noted for a parameter is the one that the expression opens
around its matcher.  So a value is never read from the group of a neighbour. -/
theorem compile_closed (segments : List Segment)
    (hclosed : ∀ param ∈ Token.params (segments.flatMap Segment.tokens),
      Regex.IsClosed param.decoder.matcher) :
    compile segments ≠ .error .lostGroup ∧
    ∀ p, compile segments = .ok p →
      p.groups.length = p.params.length ∧ p.groups.Pairwise (· < ·) ∧
      (∀ i < p.params.length, p.regex.expr.groupIndex? (Token.groupName i) = p.groups[i]?) ∧
      ∃ pieces, Token.Assembles 0 0 p.tokens pieces p.groups ∧
        p.regex.expr = .concat (.look .textStart :: pieces ++ [.look .textEnd]) := by
  rw [← params_rooted_join] at hclosed
  obtain ⟨hkept, hok⟩ := Token.compile_assembles hclosed
  refine ⟨fun hlost => ?_, fun p hp => ?_⟩
  · rcases compile_of_ofTokens hlost with hlost | ⟨names, hnames⟩
    · exact hkept hlost
    · cases hnames
  · obtain ⟨htokens, -⟩ := ofTokens_eq_ok hp
    obtain ⟨⟨pieces, hassembles, hexpr⟩, hindex⟩ :=
      hok p.regex p.groups (htokens ▸ p.compiled)
    rw [← htokens] at hassembles
    have hlength : p.groups.length = p.params.length := hassembles.length_eq
    exact ⟨hlength, hassembles.pairwise, hlength ▸ hindex, pieces, hassembles, hexpr⟩

/-- The decoder of text that a regular expression matches. -/
def matching (matcher : String) : Decoder :=
  .custom { kind := "text".toList
            matcher := matcher.toList
            decode := fun s => .ok (.string s)
            encode := fun _ => .ok ['0'] }

/-- A matcher with a group of its own, flags and a comment that ends, and one with branches. -/
theorem compile_closed_flags :
    ∃ p, compile [.param ⟨['a'], matching "(?x)(?P<y>a)+ # b)\n"⟩, .param ⟨['b'], matching "c|d"⟩] =
        .ok p ∧ p.groups = [1, 3] ∧ p.groups.Pairwise (· < ·) := by
  have hany : (compile [.param ⟨['a'], matching "(?x)(?P<y>a)+ # b)\n"⟩,
      .param ⟨['b'], matching "c|d"⟩]).toOption.any fun p => p.groups == [1, 3] := by
    decide +kernel
  obtain ⟨p, hp, hgroups⟩ := exists_of_any_toOption hany
  have hclosed : ∀ param ∈ [Param.mk ['a'] (matching "(?x)(?P<y>a)+ # b)\n"),
      Param.mk ['b'] (matching "c|d")], Regex.IsClosed param.decoder.matcher := by
    intro param hparam
    rcases List.mem_pair.mp hparam with rfl | rfl
    · show (Regex.compile? _).isSome = true
      decide +kernel
    · show (Regex.compile? _).isSome = true
      decide +kernel
  obtain ⟨-, hok⟩ := compile_closed [.param ⟨['a'], matching "(?x)(?P<y>a)+ # b)\n"⟩,
    .param ⟨['b'], matching "c|d"⟩] hclosed
  exact ⟨p, hp, beq_iff_eq.mp hgroups, (hok p hp).2.1⟩

/-- A comment at the end of a matcher takes the group of the next parameter away, and may give its
name to another group. -/
theorem exists_compile_lostGroup :
    compile [.literal ['/'], .param ⟨['a'], matching "(?x)#"⟩, .param ⟨['b'], matching "\na"⟩] =
      .error .lostGroup ∧
    ∃ p, compile [.literal ['/'], .param ⟨['a'], matching "(?x)(?P<p2>a)#"⟩,
      .param ⟨['b'], matching "\n(?P<p1>b)#"⟩, .param ⟨['c'], matching "\nc"⟩] = .ok p ∧
      p.groups = [1, 3, 2] := by
  have hany : (compile [.literal ['/'], .param ⟨['a'], matching "(?x)(?P<p2>a)#"⟩,
      .param ⟨['b'], matching "\n(?P<p1>b)#"⟩, .param ⟨['c'], matching "\nc"⟩]).toOption.any
      fun p => p.groups == [1, 3, 2] := by decide +kernel
  obtain ⟨p, hp, hgroups⟩ := exists_of_any_toOption hany
  refine ⟨?_, p, hp, beq_iff_eq.mp hgroups⟩
  have hlost : (match compile [.literal ['/'], .param ⟨['a'], matching "(?x)#"⟩,
      .param ⟨['b'], matching "\na"⟩] with
    | .error e => e == .lostGroup
    | .ok _ => false) = true := by decide +kernel
  split at hlost
  case h_1 heq => rw [heq, beq_iff_eq.mp hlost]
  case h_2 => cases hlost

end Pattern
end Routing
