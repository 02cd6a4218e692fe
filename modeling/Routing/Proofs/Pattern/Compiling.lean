/-
# Which matchers make up a pattern

Matchers that are regular expressions on their own are put into the expression of a pattern as
text.  If all of them are closed (`Regex.IsClosed`), the whole is a regular expression just if no
two groups have the same name (`Token.isSome_compile?_source`).  One that is not closed takes up
what stands behind it in its line, with the parenthesis of its group, so without line breaks the
whole is none (`Token.compile?_source_of_not_isClosed`).

Segments whose parameters have different names therefore compile under these conditions, and
otherwise the failure is that of the whole expression (`Pattern.compile_compilesIff`).

Compiling can fail in three ways, and they are looked for in this order: names of parameters that
are repeated, a matcher that is no expression on its own, and the whole expression.  The first two
are excluded by assumption in turn, so each lemma is about the next one.
-/

import Routing.Proofs.Pattern.Groups

namespace Routing
namespace Token

section Source

variable {tokens : List Token}

/-- The first matcher that is not closed takes up the rest of the line. -/
theorem exists_proceeds_of_not_isClosed
    (hvalid : ∀ p ∈ params tokens, (Regex.compile? p.decoder.matcher).isSome)
    (hopen : ∃ p ∈ params tokens, ¬Regex.IsClosed p.decoder.matcher) {i : Nat} {rest : Text}
    (hline : '\n' ∉ sourceFrom i tokens ++ rest) (before : List Regex.Expr) (n : Nat)
    (names : List Text) :
    ∃ m ≤ (sourceFrom i tokens).length, ∃ st : Regex.State, st.outer ≠ [] ∧
      Regex.Proceeds m (Regex.State.after before n names) (sourceFrom i tokens ++ rest) st [] := by
  induction tokens generalizing i before n names with
  | nil =>
    obtain ⟨p, hp, -⟩ := hopen
    cases hp
  | cons token tokens ih =>
    cases token with
    | literal s =>
      rw [sourceFrom, List.append_assoc] at hline
      obtain ⟨m, hm, hquote⟩ := Regex.proceeds_quote s before n names
      obtain ⟨m', hm', st, hst, hproceeds⟩ := ih hvalid hopen
        (fun h => hline (List.mem_append_right _ h)) ((Regex.literalPieces s).reverse ++ before) n
        names
      refine ⟨m + m', ?_, st, hst, ?_⟩
      · rw [sourceFrom, List.length_append]
        omega
      · rw [sourceFrom, List.append_assoc]
        exact (hquote _).trans hproceeds
    | param p =>
      have hlength := length_sourceFrom_param tokens i p
      rw [sourceFrom_param_append] at hline ⊢
      have hbehind : '\n' ∉ ')' :: (sourceFrom (i + 1) tokens ++ rest) := fun h =>
        hline (List.mem_append_right _ (List.mem_cons_of_mem _ (List.mem_append_right _ h)))
      obtain ⟨hsome, hvalid⟩ := List.forall_mem_cons.mp hvalid
      obtain ⟨last, hlast, houter⟩ := Regex.isSome_compile?_iff.mp hsome
      -- Behind a closed matcher, some later one is not closed; the first one that is not takes up
      -- all the rest.
      by_cases hclosed : Regex.IsClosed p.decoder.matcher
      · have hopen : ∃ p ∈ params tokens, ¬Regex.IsClosed p.decoder.matcher := by
          obtain ⟨q, hq, hnot⟩ := hopen
          rcases List.mem_cons.mp hq with rfl | hq
          · exact absurd hclosed hnot
          · exact ⟨q, hq, hnot⟩
        obtain ⟨m, hm, hparam⟩ := Regex.proceeds_param hclosed hlast houter i before n names
        obtain ⟨m', hm', st, hst, hproceeds⟩ := ih hvalid hopen
          (fun h => hbehind (List.mem_cons_of_mem _ h)) _ _ _
        exact ⟨m + m', by omega, st, hst, (hparam _).trans hproceeds⟩
      · obtain ⟨m, hm, comment, hcomment, hproceeds⟩ := Regex.exists_proceeds hlast houter
        obtain rfl : comment = true := by simpa using mt hcomment.mp hclosed
        refine ⟨1 + m, by omega, _, ?_, (Regex.proceeds_opening i before n names _).trans
          (hproceeds _ _ _ (.nothing rfl hbehind))⟩
        simp [Regex.State.inside, Regex.Surroundings.param]

/-- **A matcher that is not closed makes up no regular expression** with what stands behind it in
one line. -/
theorem compile?_source_of_not_isClosed
    (hvalid : ∀ p ∈ params tokens, (Regex.compile? p.decoder.matcher).isSome)
    (hopen : ∃ p ∈ params tokens, ¬Regex.IsClosed p.decoder.matcher)
    (hline : '\n' ∉ source tokens) : Regex.compile? (source tokens) = none := by
  rw [source, List.cons_append] at hline
  obtain ⟨m, hm, st, hst, hproceeds⟩ := exists_proceeds_of_not_isClosed hvalid hopen
    (fun h => hline (List.mem_cons_of_mem _ h)) [.look .textStart] 0 []
  have hread := ((proceeds_source tokens).trans hproceeds).readState?_eq List.nodup_nil
    (by rw [length_source]; omega : 1 + m < (source tokens).length + 1)
  rw [← Option.not_isSome_iff_eq_none, Regex.isSome_compile?_iff]
  rintro ⟨last, hlast, houter⟩
  rw [hread, Option.ite_none_right_eq_some] at hlast
  exact hst (Option.some.inj hlast.2 ▸ houter)

/-- If only the whole is no expression, this is what is reported. -/
theorem compile_eq_error_regex
    (hvalid : ∀ p ∈ params tokens, (Regex.compile? p.decoder.matcher).isSome)
    (hnone : Regex.compile? (source tokens) = none) : compile tokens = .error .regex := by
  unfold compile
  rw [find?_isNone_eq_none hvalid]
  simp only [hnone]

/-- Closed matchers do not lose their groups. -/
theorem exists_compile_eq_ok
    (hmatchers : ∀ p ∈ params tokens, (Regex.compile? p.decoder.matcher).isSome ∧
      Regex.IsClosed p.decoder.matcher) (hsome : (Regex.compile? (source tokens)).isSome) :
    ∃ found, compile tokens = .ok found := by
  obtain ⟨r, hr⟩ := Option.isSome_iff_exists.mp hsome
  have hkept := (compile_assembles fun p hp => (hmatchers p hp).2).1
  unfold compile at hkept ⊢
  rw [find?_isNone_eq_none fun p hp => (hmatchers p hp).1] at hkept ⊢
  simp only [hr] at hkept ⊢
  split
  case h_1 hlost => simp [hlost] at hkept
  case h_2 => exact ⟨_, rfl⟩

end Source

end Token

namespace Pattern

section Tokens

variable {tokens : List Token} (hdistinct : ((Token.params tokens).map Param.name).Nodup)

include hdistinct

/-- No name is repeated. -/
theorem repeatedNames_eq_nil : Token.repeatedNames [] ((Token.params tokens).map Param.name) = [] :=
  (Token.repeatedNames_eq_nil_iff List.nodup_nil _).mpr ⟨by simp, hdistinct⟩

/-- Tokens whose expression compiles are a pattern. -/
theorem exists_ofTokens_eq_ok {found : Regex × List Nat} (h : Token.compile tokens = .ok found) :
    ∃ p, ofTokens tokens = .ok p := by
  unfold ofTokens
  rw [repeatedNames_eq_nil hdistinct]
  dsimp only
  split
  case h_1 => exact ⟨_, rfl⟩
  case h_2 e he => simp [h] at he

/-- Tokens whose expression does not compile fail for that reason. -/
theorem ofTokens_eq_error {e : CompileError} (h : Token.compile tokens = .error e) :
    ofTokens tokens = .error e := by
  unfold ofTokens
  rw [repeatedNames_eq_nil hdistinct]
  dsimp only
  split
  case h_1 hok => simp [h] at hok
  case h_2 e' he =>
    rw [h] at he
    rw [Except.error.inj he]

/-- Tokens with closed matchers are a pattern unless two groups have the same name. -/
theorem ofTokens_of_isClosed
    (hmatchers : ∀ p ∈ Token.params tokens, (Regex.compile? p.decoder.matcher).isSome ∧
      Regex.IsClosed p.decoder.matcher) :
    ((Token.groupNamesFrom 0 (Token.params tokens)).Nodup → ∃ p, ofTokens tokens = .ok p) ∧
      (¬(Token.groupNamesFrom 0 (Token.params tokens)).Nodup →
        ofTokens tokens = .error .regex) := by
  have hsource := Token.isSome_compile?_source hmatchers
  refine ⟨fun hnodup => ?_, fun hnodup => ?_⟩
  · obtain ⟨found, hfound⟩ := Token.exists_compile_eq_ok hmatchers (hsource.mpr hnodup)
    exact exists_ofTokens_eq_ok hdistinct hfound
  · refine ofTokens_eq_error hdistinct (Token.compile_eq_error_regex
      (fun p hp => (hmatchers p hp).1) ?_)
    exact Option.not_isSome_iff_eq_none.mp (mt hsource.mp hnodup)

end Tokens

/-- Segments compile if the condition holds, and otherwise the failure is that of their whole
expression. -/
def CompilesIff (segments : List Segment) (P : Prop) : Prop :=
  (P → ∃ p, compile segments = .ok p) ∧ (¬P → compile segments = .error .regex)

/-- **Valid matchers make up a pattern if they are closed and no two groups have the same name.**
If all of them are closed, the names decide, and without names in them nothing fails.  If there is
no line break in the expression, it takes that they are closed, too. -/
theorem compile_compilesIff (segments : List Segment)
    (hdistinct : ((Token.params (segments.flatMap Segment.tokens)).map Param.name).Nodup)
    (hvalid : ∀ p ∈ Token.params (segments.flatMap Segment.tokens),
      (Regex.compile? p.decoder.matcher).isSome) :
    ((∀ p ∈ Token.params (segments.flatMap Segment.tokens), Regex.IsClosed p.decoder.matcher) →
      CompilesIff segments
        (Token.groupNamesFrom 0 (Token.params (segments.flatMap Segment.tokens))).Nodup ∧
      ((∀ p ∈ Token.params (segments.flatMap Segment.tokens),
        Regex.sourceNames p.decoder.matcher = []) → ∃ p, compile segments = .ok p)) ∧
    ('\n' ∉ Token.source (Token.rooted (Token.join (segments.flatMap Segment.tokens))) →
      CompilesIff segments
        ((∀ p ∈ Token.params (segments.flatMap Segment.tokens), Regex.IsClosed p.decoder.matcher) ∧
          (Token.groupNamesFrom 0 (Token.params (segments.flatMap Segment.tokens))).Nodup)) := by
  rw [← params_rooted_join] at hdistinct hvalid ⊢
  have hclosed (h : ∀ p ∈ Token.params (Token.rooted (Token.join (segments.flatMap
      Segment.tokens))), Regex.IsClosed p.decoder.matcher) :=
    ofTokens_of_isClosed hdistinct fun p hp => ⟨hvalid p hp, h p hp⟩
  refine ⟨fun h => ⟨hclosed h, fun hnames => (hclosed h).1 (Token.nodup_groupNamesFrom hnames 0)⟩,
    fun hline => ⟨fun h => (hclosed h.1).1 h.2, fun hnot => ?_⟩⟩
  by_cases h : ∀ p ∈ Token.params (Token.rooted (Token.join (segments.flatMap Segment.tokens))),
      Regex.IsClosed p.decoder.matcher
  · exact (hclosed h).2 fun hnodup => hnot ⟨h, hnodup⟩
  · push Not at h
    exact ofTokens_eq_error hdistinct (Token.compile_eq_error_regex hvalid
      (Token.compile?_source_of_not_isClosed hvalid h hline))

/-- A matcher with flags and comments that end, and one with branches and an escaped bracket. -/
theorem compile_compilesIff_flags :
    ∃ p, compile [.literal ['/'], .param ⟨['a'], matching "(?x)a + # b)\n"⟩,
      .param ⟨['b'], matching "c|[)\\]]"⟩] = .ok p := by
  refine ((compile_compilesIff [.literal ['/'], .param ⟨['a'], matching "(?x)a + # b)\n"⟩,
    .param ⟨['b'], matching "c|[)\\]]"⟩] (by decide) ?_).1 ?_).2 ?_
  · decide +kernel
  · show ∀ p ∈ _, (Regex.compile? _).isSome = true
    decide +kernel
  · decide +kernel

/-- A comment at the end of a matcher takes up the parenthesis that closes its group. -/
theorem exists_compile_regex :
    (Regex.compile? "(?x)a #c".toList).isSome ∧ Regex.sourceNames "(?x)a #c".toList = [] ∧
      compile [.literal ['/'], .param ⟨['a'], matching "(?x)a #c"⟩] = .error .regex := by
  refine ⟨by decide +kernel, by decide +kernel, ?_⟩
  have hregex : (match compile [.literal ['/'], .param ⟨['a'], matching "(?x)a #c"⟩] with
    | .error e => e == .regex
    | .ok _ => false) = true := by decide +kernel
  split at hregex
  case h_1 heq => rw [heq, beq_iff_eq.mp hregex]
  case h_2 => cases hregex

end Pattern
end Routing
