/-
# The expression of tokens

A pattern writes its tokens as the source of a regular expression.  Matchers may have groups of
their own, with names, and flags.  As long as none of them ends in a comment that takes up the
parenthesis behind it (`Regex.IsClosed`), the source is read as its pieces (`Token.Assembles`): each
character of a literal, and the expression of each matcher in the group of its parameter.  It fails
just if two groups have the same name (`Token.exists_readState?_source`).

Default matchers have no names, so their tokens always make up the expression that is expected
(`Token.read?_source`).

The source is read from left to right, so the state behind some tokens is known: their pieces, how
many groups they have, and the names of these (`State.after`).  Each token leads from one such
state to the next, a literal by one step for each character (`proceeds_quote`), a parameter by
opening its group, reading its matcher inside of it and closing it (`proceeds_param`).
-/

import Routing.Pattern.Basic
import Routing.Proofs.Regex.Nested
import Routing.Proofs.Text.Digits
import Routing.Proofs.Text.Splitting

namespace Routing
namespace Regex

/-- A metacharacter behind a backslash stands for itself. -/
theorem read?_of_isMeta {c : Char} (h : isMeta c) (s : Text) :
    Escape.read? {} (c :: s) = some (.literal c, s) := by
  have hmem : c ∈ "\\.+*?()|[]\x7b\x7d^$#&-~".toList := by simpa [isMeta] using h
  simp only [String.reduceToList, List.mem_cons, List.not_mem_nil, or_false] at hmem
  rcases hmem with rfl | rfl | rfl | rfl | rfl | rfl | rfl | rfl | rfl | rfl | rfl | rfl | rfl |
    rfl | rfl | rfl | rfl | rfl <;> rfl

section Steps

variable {st : State} (hflags : st.flags = {})

include hflags

/-- A character that is no metacharacter stands for itself. -/
theorem step?_of_not_isMeta {c : Char} (h : isMeta c = false) (s : Text) :
    step? st c s = some (st.push (.char (CharSet.one c)), s) := by
  have hne (d : Char) (hd : isMeta d) : c ≠ d := fun heq => by simp [heq, hd] at h
  rw [step?, if_neg (hne '(' (by decide)), if_neg (hne ')' (by decide)),
    if_neg (hne '|' (by decide)), if_neg (hne '[' (by decide)), if_neg (hne '?' (by decide)),
    if_neg (hne '*' (by decide)),
    if_neg (hne '+' (by decide)), if_neg (hne '\x7b' (by decide)), if_neg (hne '\\' (by decide)),
    if_neg (hne '.' (by decide)), if_neg (hne '^' (by decide)), if_neg (hne '$' (by decide)),
    hflags]
  rfl

/-- A metacharacter is read behind a backslash as itself. -/
theorem step?_of_isMeta {c : Char} (h : isMeta c) (s : Text) :
    step? st '\\' (c :: s) = some (st.push (.char (CharSet.one c)), s) := by
  have hread := read?_of_isMeta h s
  simp [step?, hflags, hread, ofEscape, literal, Flags.fold]

/-- A group with a name opens, unless there is one with the name. -/
theorem step?_opening {name : Text} (hname : isGroupName name) (hnot : '>' ∉ name) (s : Text) :
    step? st '(' ("?P<".toList ++ (name ++ '>' :: s)) =
      if st.names.contains name then none else some (st.openKept (some name), s) := by
  have hopening : step? st '(' ("?P<".toList ++ (name ++ '>' :: s)) =
      openNamed? st (name ++ '>' :: s) := by
    rw [step?, if_pos rfl, readOpening?, hflags]
    rfl
  rw [hopening, openNamed?, Text.cutAt_append_cons hnot]
  simp only [hname, Bool.true_and]
  cases st.names.contains name <;> rfl

end Steps

/-- The pieces of a text that is matched as it is. -/
def literalPieces (s : Text) : List Expr := s.map fun c => .char (CharSet.one c)

/-- Digits of ASCII are numeric. -/
theorem isNumeric_of_isDigit {c : Char} (h : Text.IsDigit c) : Letter.isNumeric c := by
  have hlt : c.toNat < 128 := by
    have := h.2
    rw [Char.le_def, UInt32.le_iff_toNat_le] at this
    exact Nat.lt_of_le_of_lt this (by decide)
  rw [Letter.isNumeric, if_pos hlt]
  simpa [Char.isDigit, Text.IsDigit, Char.le_def] using h

/-- The names of parameter groups are names for groups. -/
theorem isGroupName_groupName (n : Nat) : isGroupName (Token.groupName n) := by
  have hdigits : ∀ c ∈ Text.decimal n, Letter.isNumeric c :=
    fun c hc => isNumeric_of_isDigit (Text.isDigit_of_mem_decimal hc)
  have hp : Letter.isAlphabetic 'p' := by decide
  simp only [Token.groupName, isGroupName, hp, Bool.or_true, Bool.true_and, List.all_eq_true]
  intro c hc
  rw [hdigits c hc, Bool.or_true]

/-- These names are not cut short, as no angle bracket is in them. -/
theorem not_mem_groupName (n : Nat) : '>' ∉ Token.groupName n := by
  intro h
  rcases List.mem_cons.mp h with h | h
  · exact absurd h (by decide)
  · exact absurd (Text.isDigit_of_mem_decimal h) (by decide)

/-- The state behind pieces, the latest first, with `n` groups and their names. -/
def State.after (pieces : List Expr) (n : Nat) (names : List Text) : State :=
  { level := { pieces, repeatable := true }, groupCount := n, names }

/-- **A quoted text is read as its characters.** -/
theorem proceeds_quote (s : Text) (pieces : List Expr) (n : Nat) (names : List Text) :
    ∃ m ≤ (quote s).length, ∀ rest, Proceeds m (State.after pieces n names) (quote s ++ rest)
      (State.after ((literalPieces s).reverse ++ pieces) n names) rest := by
  induction s generalizing pieces with
  | nil => exact ⟨0, Nat.le_refl 0, fun _ => .refl _ _⟩
  | cons c s ih =>
    obtain ⟨m, hm, ih⟩ := ih (.char (CharSet.one c) :: pieces)
    have hpieces : (literalPieces (c :: s)).reverse ++ pieces =
        (literalPieces s).reverse ++ .char (CharSet.one c) :: pieces := by
      simp [literalPieces]
    have hquote : quote (c :: s) = (if isMeta c then ['\\', c] else [c]) ++ quote s := rfl
    refine ⟨1 + m, ?_, fun rest => ?_⟩
    · have hlength : 1 ≤ (if isMeta c then ['\\', c] else [c]).length := by split <;> simp
      rw [hquote, List.length_append]
      omega
    · rw [hquote, hpieces, List.append_assoc]
      refine Proceeds.trans ?_ (ih rest)
      split
      case isTrue h => exact Proceeds.step_of_names_eq rfl rfl (step?_of_isMeta rfl h _)
      case isFalse h =>
        exact Proceeds.step_of_names_eq rfl rfl (step?_of_not_isMeta rfl (by simpa using h) _)

/-- What the matcher of the `i`-th parameter is read inside of. -/
def Surroundings.param (i : Nat) (pieces : List Expr) (n : Nat) (names : List Text) :
    Surroundings :=
  ⟨[⟨{ pieces, repeatable := true }, {}, some (n + 1, some (Token.groupName i))⟩], n + 1,
    Token.groupName i :: names⟩

/-- The group of a parameter opens. -/
theorem proceeds_opening (i : Nat) (pieces : List Expr) (n : Nat) (names : List Text)
    (rest : Text) :
    Proceeds 1 (State.after pieces n names) ("(?P<".toList ++ Token.groupName i ++ '>' :: rest)
      (({} : State).inside (.param i pieces n names)) rest := by
  have hskip : ({} : Flags).skip ("(?P<".toList ++ Token.groupName i ++ '>' :: rest) =
      '(' :: ("?P<".toList ++ (Token.groupName i ++ '>' :: rest)) := by
    simp [Flags.skip]
  have hnames : (({} : State).inside (.param i pieces n names)).names =
      Token.groupName i :: names := rfl
  have hopen : (State.after pieces n names).openKept (some (Token.groupName i)) =
      ({} : State).inside (.param i pieces n names) := by
    simp [State.openKept, State.after, State.inside, Level.shift, Surroundings.param]
  refine Proceeds.step hskip (hnames ▸ List.suffix_cons _ names) fun hnodup => ?_
  have hnodup : names.Nodup := hnodup
  rw [step?_opening rfl (isGroupName_groupName i) (not_mem_groupName i), hopen, hnames]
  simp only [List.nodup_cons, hnodup, and_true, State.after, List.contains_iff_mem, ite_not]

/-- A closed matcher is read as the group of its parameter. -/
theorem proceeds_param {matcher : Text} {last : State} (hclosed : IsClosed matcher)
    (hlast : readState? (matcher.length + 1) {} matcher = some last) (houter : last.outer = [])
    (i : Nat) (pieces : List Expr) (n : Nat) (names : List Text) :
    ∃ m ≤ matcher.length + 2, ∀ rest, Proceeds m (State.after pieces n names)
      ("(?P<".toList ++ Token.groupName i ++ '>' :: (matcher ++ ')' :: rest))
      (State.after (.group (n + 1) (some (Token.groupName i)) (last.level.expr.shift (n + 1)) ::
        pieces) (n + 1 + last.groupCount) (last.names ++ Token.groupName i :: names)) rest := by
  obtain ⟨m, hm, comment, hcomment, hproceeds⟩ := exists_proceeds hlast houter
  obtain rfl := hcomment.mpr hclosed
  refine ⟨1 + m + 1, by omega, fun rest => ?_⟩
  have hclose : (last.inside (.param i pieces n names)).close? =
      some (State.after (.group (n + 1) (some (Token.groupName i))
        (last.level.expr.shift (n + 1)) :: pieces) (n + 1 + last.groupCount)
        (last.names ++ Token.groupName i :: names)) := by
    simp [State.close?, State.inside, houter, Surroundings.param, State.after, State.push,
      Level.expr_shift, Nat.add_comm]
  exact ((proceeds_opening i pieces n names _).trans (hproceeds _ _ _ (.all rfl))).trans
    (.close hclose rest)

/-- What can be read compiles. -/
theorem compile?_eq_some {source : Text} {e : Expr} (h : Expr.read? source = some e) :
    ∃ r, compile? source = some r ∧ r.expr = e := by
  unfold compile?
  split
  case h_1 e' h' => exact ⟨_, rfl, Option.some.inj (h'.symm.trans h)⟩
  case h_2 h' => simp [h'] at h

/-- How many groups an expression opens that are kept. -/
def groupCount? (source : Text) : Option Nat :=
  (readState? (source.length + 1) {} source).map State.groupCount

/-- The names of the groups that an expression opens, the latest first. -/
def sourceNames (source : Text) : List Text :=
  ((readState? (source.length + 1) {} source).map State.names).getD []

/-- The names of an expression are those of the state behind it. -/
theorem sourceNames_of_readState? {source : Text} {last : State}
    (h : readState? (source.length + 1) {} source = some last) : sourceNames source = last.names := by
  rw [sourceNames, h, Option.map_some, Option.getD_some]

end Regex

namespace Token

/-- The names of the groups of parameters, with `i` parameters before them, and of the groups in
their matchers, the latest first. -/
def groupNamesFrom : Nat → List Param → List Text
  | _, [] => []
  | i, p :: ps =>
    groupNamesFrom (i + 1) ps ++ (Regex.sourceNames p.decoder.matcher ++ [groupName i])

section Names

variable {ps : List Param}

/-- Without names in the matchers, all names are those of parameters. -/
theorem mem_groupNamesFrom (h : ∀ p ∈ ps, Regex.sourceNames p.decoder.matcher = []) {i : Nat}
    {name : Text} (hname : name ∈ groupNamesFrom i ps) : ∃ j ≥ i, name = groupName j := by
  induction ps generalizing i with
  | nil => cases hname
  | cons p ps ih =>
    obtain ⟨hp, hps⟩ := List.forall_mem_cons.mp h
    rw [groupNamesFrom, hp, List.nil_append, List.mem_append, List.mem_singleton] at hname
    rcases hname with hname | rfl
    · obtain ⟨j, hj, rfl⟩ := ih hps hname
      exact ⟨j, Nat.le_of_succ_le hj, rfl⟩
    · exact ⟨i, Nat.le_refl i, rfl⟩

/-- Matchers without names leave the names of the parameters, which are different. -/
theorem nodup_groupNamesFrom (h : ∀ p ∈ ps, Regex.sourceNames p.decoder.matcher = []) (i : Nat) :
    (groupNamesFrom i ps).Nodup := by
  induction ps generalizing i with
  | nil => exact List.nodup_nil
  | cons p ps ih =>
    obtain ⟨hp, hps⟩ := List.forall_mem_cons.mp h
    rw [groupNamesFrom, hp, List.nil_append]
    refine List.nodup_append.mpr ⟨ih hps (i + 1), List.pairwise_singleton _ _,
      fun name hname _ hown heq => ?_⟩
    obtain ⟨j, hj, rfl⟩ := mem_groupNamesFrom hps hname
    rw [List.mem_singleton.mp hown] at heq
    have := Text.decimal_injective (List.cons.inj heq).2
    omega

end Names

/-- The pieces of tokens with `i` parameters and `n` groups before them, and the number of the group
of each parameter: a literal stands for its characters, and a parameter for the group `n + 1` with
its matcher, whose own groups come next. -/
inductive Assembles : Nat → Nat → List Token → List Regex.Expr → List Nat → Prop
  /-- There are no tokens. -/
  | nil {i n : Nat} : Assembles i n [] [] []
  /-- A literal in front. -/
  | literal {i n : Nat} {s : Text} {tokens : List Token} {pieces : List Regex.Expr}
      {groups : List Nat} (h : Assembles i n tokens pieces groups) :
      Assembles i n (.literal s :: tokens) (Regex.literalPieces s ++ pieces) groups
  /-- A parameter in front. -/
  | param {i n k : Nat} {p : Param} {m : Regex} {tokens : List Token} {pieces : List Regex.Expr}
      {groups : List Nat} (hmatcher : Regex.compile? p.decoder.matcher = some m)
      (hcount : Regex.groupCount? p.decoder.matcher = some k)
      (h : Assembles (i + 1) (n + 1 + k) tokens pieces groups) :
      Assembles i n (.param p :: tokens)
        (.group (n + 1) (some (groupName i)) (m.expr.shift (n + 1)) :: pieces) ((n + 1) :: groups)

namespace Assembles

variable {i n : Nat} {tokens : List Token} {pieces : List Regex.Expr} {groups : List Nat}

/-- There is a group for each parameter. -/
theorem length_eq (h : Assembles i n tokens pieces groups) :
    groups.length = (params tokens).length := by
  induction h with
  | nil => rfl
  | literal h ih => exact ih
  | param hmatcher hcount h ih => exact congrArg (· + 1) ih

/-- The groups come behind those before the tokens. -/
theorem lt_of_mem (h : Assembles i n tokens pieces groups) : ∀ group ∈ groups, n < group := by
  induction h with
  | nil => simp
  | literal h ih => exact ih
  | param hmatcher hcount h ih =>
    intro group hgroup
    rcases List.mem_cons.mp hgroup with rfl | hgroup
    · exact Nat.lt_succ_self _
    · have := ih group hgroup
      omega

/-- **The groups ascend.** -/
theorem pairwise (h : Assembles i n tokens pieces groups) : groups.Pairwise (· < ·) := by
  induction h with
  | nil => exact .nil
  | literal h ih => exact ih
  | param hmatcher hcount h ih =>
    refine List.pairwise_cons.mpr ⟨fun group hgroup => ?_, ih⟩
    have := h.lt_of_mem group hgroup
    omega

end Assembles

section Source

variable (tokens : List Token)

/-- The source of a parameter is its matcher in a group with its name. -/
theorem sourceFrom_param_append (i : Nat) (p : Param) (rest : Text) :
    sourceFrom i (.param p :: tokens) ++ rest = "(?P<".toList ++ groupName i ++
      '>' :: (p.decoder.matcher ++ ')' :: (sourceFrom (i + 1) tokens ++ rest)) := by
  simp [sourceFrom]

/-- The source of a parameter is longer than its matcher by two at least. -/
theorem length_sourceFrom_param (i : Nat) (p : Param) :
    p.decoder.matcher.length + 2 + (sourceFrom (i + 1) tokens).length ≤
      (sourceFrom i (.param p :: tokens)).length := by
  simp only [sourceFrom, List.length_append, List.length_cons, String.reduceToList]
  omega

/-- The source has an anchor at either end. -/
theorem length_source : (source tokens).length = (sourceFrom 0 tokens).length + 2 := by
  simp [source]

/-- The source begins with the start of the text. -/
theorem proceeds_source : Regex.Proceeds 1 {} (source tokens)
    (Regex.State.after [.look .textStart] 0 []) (sourceFrom 0 tokens ++ ['$']) :=
  .step_of_names_eq rfl rfl rfl

end Source

/-- The source of tokens with closed matchers is read as their pieces. -/
theorem exists_assembles {tokens : List Token}
    (hmatchers : ∀ p ∈ params tokens, (Regex.compile? p.decoder.matcher).isSome ∧
      Regex.IsClosed p.decoder.matcher) (i : Nat) (before : List Regex.Expr) (n : Nat)
    (names : List Text) :
    ∃ pieces groups n', Assembles i n tokens pieces groups ∧
      ∃ m ≤ (sourceFrom i tokens).length, ∀ rest,
        Regex.Proceeds m (Regex.State.after before n names) (sourceFrom i tokens ++ rest)
          (Regex.State.after (pieces.reverse ++ before) n'
            (groupNamesFrom i (params tokens) ++ names)) rest := by
  induction tokens generalizing i before n names with
  | nil => exact ⟨[], [], n, .nil, 0, Nat.le_refl 0, fun _ => .refl _ _⟩
  | cons token tokens ih =>
    cases token with
    | literal s =>
      obtain ⟨m, hm, hquote⟩ := Regex.proceeds_quote s before n names
      obtain ⟨pieces, groups, n', hassembles, m', hm', hproceeds⟩ := ih hmatchers i
        ((Regex.literalPieces s).reverse ++ before) n names
      refine ⟨Regex.literalPieces s ++ pieces, groups, n', .literal hassembles, m + m', ?_,
        fun rest => ?_⟩
      · rw [sourceFrom, List.length_append]
        omega
      · rw [sourceFrom, List.append_assoc, List.reverse_append, List.append_assoc]
        exact (hquote _).trans (hproceeds rest)
    -- The matcher is read inside of its group, and the rest behind as many groups more as it has.
    | param p =>
      obtain ⟨⟨hsome, hclosed⟩, hmatchers⟩ := List.forall_mem_cons.mp hmatchers
      obtain ⟨r, hr⟩ := Option.isSome_iff_exists.mp hsome
      obtain ⟨last, hlast, houter, hexpr⟩ := Regex.exists_readState? hr
      obtain ⟨m, hm, hparam⟩ := Regex.proceeds_param hclosed hlast houter i before n names
      obtain ⟨pieces, groups, n', hassembles, m', hm', hproceeds⟩ := ih hmatchers (i + 1)
        (.group (n + 1) (some (groupName i)) (r.expr.shift (n + 1)) :: before)
        (n + 1 + last.groupCount) (last.names ++ groupName i :: names)
      have hparams : groupNamesFrom i (params (.param p :: tokens)) =
          groupNamesFrom (i + 1) (params tokens) ++ (last.names ++ [groupName i]) := by
        rw [← Regex.sourceNames_of_readState? hlast]
        rfl
      rw [hparams]
      refine ⟨_, _, n', .param hr ?_ hassembles, m + m', ?_, fun rest => ?_⟩
      · rw [Regex.groupCount?, hlast, Option.map_some]
      · have := length_sourceFrom_param tokens i p
        omega
      · rw [hexpr] at hparam
        rw [sourceFrom_param_append]
        simpa using (hparam _).trans (hproceeds rest)

/-- The source of tokens with closed matchers is read, unless a name is there twice. -/
theorem exists_readState?_source {tokens : List Token}
    (hmatchers : ∀ p ∈ params tokens, (Regex.compile? p.decoder.matcher).isSome ∧
      Regex.IsClosed p.decoder.matcher) :
    ∃ pieces groups n, Assembles 0 0 tokens pieces groups ∧
      Regex.readState? ((source tokens).length + 1) {} (source tokens) =
        if (groupNamesFrom 0 (params tokens)).Nodup then
          some (Regex.State.after (.look .textEnd :: (pieces.reverse ++ [.look .textStart])) n
            (groupNamesFrom 0 (params tokens)))
        else none := by
  obtain ⟨pieces, groups, n, hassembles, m, hm, hproceeds⟩ := exists_assembles hmatchers 0
    [.look .textStart] 0 []
  rw [List.append_nil] at hproceeds
  have hend : Regex.Proceeds 1 (Regex.State.after (pieces.reverse ++ [.look .textStart]) n
      (groupNamesFrom 0 (params tokens))) ['$'] (Regex.State.after (.look .textEnd ::
      (pieces.reverse ++ [.look .textStart])) n (groupNamesFrom 0 (params tokens))) [] :=
    .step_of_names_eq rfl rfl rfl
  refine ⟨pieces, groups, n, hassembles, ?_⟩
  refine (((proceeds_source tokens).trans (hproceeds _)).trans hend).readState?_eq List.nodup_nil ?_
  rw [length_source]
  omega

section Matchers

variable {tokens : List Token}

/-- **Closed matchers make up a regular expression unless two groups have the same name.** -/
theorem isSome_compile?_source
    (hmatchers : ∀ p ∈ params tokens, (Regex.compile? p.decoder.matcher).isSome ∧
      Regex.IsClosed p.decoder.matcher) :
    (Regex.compile? (source tokens)).isSome ↔ (groupNamesFrom 0 (params tokens)).Nodup := by
  obtain ⟨pieces, groups, n, -, hread⟩ := exists_readState?_source hmatchers
  rw [Regex.isSome_compile?_iff, hread]
  constructor
  · rintro ⟨last, hlast, -⟩
    exact (Option.ite_none_right_eq_some.mp hlast).1
  · intro hnodup
    exact ⟨_, if_pos hnodup, rfl⟩

/-- If all matchers compile, none is found that does not. -/
theorem find?_isNone_eq_none
    (hvalid : ∀ p ∈ params tokens, (Regex.compile? p.decoder.matcher).isSome) :
    ((params tokens).find? fun p => (Regex.compile? p.decoder.matcher).isNone) = none := by
  rw [List.find?_eq_none]
  intro p hp hnone
  have hsome := hvalid p hp
  rw [Option.isNone_iff_eq_none.mp hnone] at hsome
  cases hsome

end Matchers

end Token

namespace Regex

/-- The characters of the default matcher. -/
def notSlash : CharSet := fun c => c != '/'

/-- The group of the parameter behind `n` other ones. -/
def groupPiece (n : Nat) : Expr :=
  .group (n + 1) (some (Token.groupName n)) (Expr.concat [.plus true (.char notSlash)])

/-- The class of the default matcher. -/
theorem readClass?_notSlash (s : Text) :
    readClass? {} ("^/]".toList ++ s) = some (notSlash, s) := by
  have hset : CharSet.compl (CharSet.union (CharSet.ofList []) (CharSet.one '/')) = notSlash := by
    funext c
    simp [CharSet.compl, CharSet.union, CharSet.ofList, CharSet.one, notSlash, bne]
  rw [← hset]
  rfl

/-- The expression of the default matcher. -/
theorem read?_defaultMatcher :
    Expr.read? defaultMatcher = some (Expr.concat [.plus true (.char notSlash)]) := by
  have hclass : step? {} '[' "^/]+".toList = some (({} : State).push (.char notSlash), ['+']) := by
    have hstep (s : Text) : step? {} '[' s =
        (readClass? {} s).map fun found => (({} : State).push (.char found.1), found.2) := rfl
    exact (hstep _).trans (congrArg _ (readClass?_notSlash ['+']))
  have hread : Expr.read? defaultMatcher =
      (step? {} '[' "^/]+".toList).bind fun found => readRest? 5 found.1 found.2 := rfl
  rw [hread, hclass]
  rfl

/-- The default matcher compiles. -/
theorem isSome_compile?_defaultMatcher : (compile? defaultMatcher).isSome := by
  obtain ⟨r, hr, -⟩ := compile?_eq_some read?_defaultMatcher
  rw [hr, Option.isSome_some]

/-- The default matcher is closed. -/
theorem isClosed_defaultMatcher : IsClosed defaultMatcher := by
  have hread : (Expr.read? ("(?:".toList ++ defaultMatcher ++ [')'])).isSome := rfl
  obtain ⟨e, he⟩ := Option.isSome_iff_exists.mp hread
  obtain ⟨r, hr, -⟩ := compile?_eq_some he
  rw [IsClosed, hr, Option.isSome_some]

/-- The default matcher has no names. -/
theorem sourceNames_defaultMatcher : sourceNames defaultMatcher = [] := rfl

/-- The default matcher has no groups. -/
theorem groupCount?_defaultMatcher : groupCount? defaultMatcher = some 0 := rfl

end Regex

namespace Token

/-- Every parameter has the default matcher. -/
def HasDefaultMatchers (tokens : List Token) : Prop :=
  ∀ p ∈ params tokens, p.decoder.matcher = defaultMatcher

/-- The pieces of tokens with `n` parameters before them. -/
def piecesFrom (n : Nat) : List Token → List Regex.Expr
  | [] => []
  | literal s :: tokens => Regex.literalPieces s ++ piecesFrom n tokens
  | param _ :: tokens => Regex.groupPiece n :: piecesFrom (n + 1) tokens

/-- The expression of tokens. -/
def expr (tokens : List Token) : Regex.Expr :=
  Regex.Expr.concat (.look .textStart :: piecesFrom 0 tokens ++ [.look .textEnd])

/-- Default matchers make up the pieces that are expected. -/
theorem Assembles.eq_piecesFrom {i n : Nat} {tokens : List Token} {pieces : List Regex.Expr}
    {groups : List Nat} (h : Assembles i n tokens pieces groups) (hin : i = n)
    (hmatchers : HasDefaultMatchers tokens) : pieces = piecesFrom n tokens := by
  induction h with
  | nil => rfl
  | literal h ih => rw [piecesFrom, ih hin hmatchers]
  | @param i n k p m tokens pieces groups hmatcher hcount h ih =>
    obtain ⟨hp, hmatchers⟩ := List.forall_mem_cons.mp hmatchers
    rw [hp] at hmatcher hcount
    have hexpr := (Regex.read?_of_compile? hmatcher).symm.trans Regex.read?_defaultMatcher
    obtain rfl := Option.some.inj (hcount.symm.trans Regex.groupCount?_defaultMatcher)
    rw [Option.some.inj hexpr, hin, piecesFrom, ih (congrArg (· + 1) hin) hmatchers]
    rfl

/-- **The source of tokens is read as their expression.** -/
theorem read?_source {tokens : List Token} (h : HasDefaultMatchers tokens) :
    Regex.Expr.read? (source tokens) = some (expr tokens) := by
  have hmatchers : ∀ p ∈ params tokens, (Regex.compile? p.decoder.matcher).isSome ∧
      Regex.IsClosed p.decoder.matcher := fun p hp => by
    rw [h p hp]
    exact ⟨Regex.isSome_compile?_defaultMatcher, Regex.isClosed_defaultMatcher⟩
  have hnames : ∀ p ∈ params tokens, Regex.sourceNames p.decoder.matcher = [] := fun p hp => by
    rw [h p hp, Regex.sourceNames_defaultMatcher]
  obtain ⟨pieces, groups, n, hassembles, hread⟩ := exists_readState?_source hmatchers
  rw [if_pos (nodup_groupNamesFrom hnames 0), hassembles.eq_piecesFrom rfl h] at hread
  rw [Regex.Expr.read?, Regex.readRest?_eq, hread, Option.bind_some, Regex.State.finish?,
    if_pos (by rfl)]
  simp [Regex.State.after, Regex.Level.expr, expr]

end Token
end Routing
