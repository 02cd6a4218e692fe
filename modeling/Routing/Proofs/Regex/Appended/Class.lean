/-
# Reading classes with more text behind

A class ends at a bracket of its own, so it is read in the same way with more text behind it
(`readClass?_append`).  The text begins with a parenthesis, which is in no operator and in no name
of a class.

A bracket inside of a class may begin a named class, a nested one or stand for itself, and reading
tries these in turn.  So a failed try has to fail with more text behind it as well, which is where
the parenthesis counts (`namedClass?_append_eq_none`).
-/

import Routing.Proofs.Regex.Appended

namespace Routing
namespace Regex

variable {flags : Flags} {s s' : Text}

/-! ### The beginning of a class -/

namespace Bracket

/-- A class may begin with a caret. -/
def caret (flags : Flags) (s : Text) : Bool × Text :=
  match flags.skip s with
  | '^' :: s => (true, s)
  | s => (false, s)

/-- The class behind its caret. -/
def behindCaret (flags : Flags) (caret : Bool) (s : Text) : Bracket × Text :=
  match flags.takeWhile (· == '-') s with
  | ([], ']' :: s) => (⟨caret, none, CharSet.one ']'⟩, s)
  | (dashes, s) => (⟨caret, none, CharSet.ofList dashes⟩, s)

/-- A class begins with a caret or without one, and then with dashes. -/
theorem begin_eq (flags : Flags) (s : Text) :
    begin flags s = behindCaret flags (caret flags s).1 (caret flags s).2 := rfl

/-- A caret is read where it stands. -/
theorem caret_append {negated : Bool} {c : Char} (h : caret flags s = (negated, c :: s'))
    (t : Text) : caret flags (s ++ t) = (negated, c :: (s' ++ t)) := by
  unfold caret at h ⊢
  split at h
  case h_1 hskip =>
    rw [Flags.skip_append hskip]
    cases h
    rfl
  case h_2 hne =>
    cases hskip : flags.skip s with
    | nil =>
      rw [hskip] at h
      cases h
    | cons d rest =>
      rw [hskip] at h
      cases h
      rw [Flags.skip_append hskip]
      split
      case h_1 heq => exact absurd (List.cons.inj heq).1 fun heq => hne s' (heq ▸ hskip)
      case h_2 => rfl

/-- The dashes at the front of a class end where its items begin. -/
theorem behindCaret_append {negated : Bool} {b : Bracket} {c : Char}
    (h : behindCaret flags negated s = (b, c :: s')) (t : Text) :
    behindCaret flags negated (s ++ t) = (b, c :: (s' ++ t)) := by
  unfold behindCaret at h
  split at h
  case h_1 htake =>
    cases h
    rw [behindCaret, Flags.takeWhile_append htake]
    rfl
  case h_2 dashes rest hne htake =>
    cases h
    rw [behindCaret, Flags.takeWhile_append htake]
    split
    case h_1 heq =>
      obtain ⟨hdashes, heq⟩ := Prod.mk.inj heq
      obtain ⟨rfl, -⟩ := List.cons.inj heq
      exact absurd rfl (hne s' hdashes)
    case h_2 heq =>
      cases heq
      rfl

/-- The beginning of a class is read in the same way. -/
theorem begin_append {b : Bracket} {c : Char} (h : begin flags s = (b, c :: s')) (t : Text) :
    begin flags (s ++ t) = (b, c :: (s' ++ t)) := by
  rw [begin_eq] at h ⊢
  cases hcaret : (caret flags s).2 with
  | nil =>
    rw [hcaret, behindCaret, flags.takeWhile_nil] at h
    cases h
  | cons d rest =>
    rw [hcaret] at h
    rw [caret_append (Prod.ext rfl hcaret)]
    exact behindCaret_append h t

end Bracket

/-! ### Classes with names -/

/-- No class has a name with a parenthesis in it. -/
theorem CharSet.ofName?_eq_none {name : Text} (h : ')' ∈ name) : CharSet.ofName? name = none := by
  cases hfound : ofName? name with
  | none => rfl
  | some set =>
    obtain ⟨⟨known, _⟩, hmem, hif⟩ := List.exists_of_findSome?_eq_some hfound
    have hknown : known ∈ ["alnum", "alpha", "ascii", "blank", "cntrl", "digit", "graph", "lower",
        "print", "punct", "space", "upper", "word", "xdigit"] :=
      List.mem_map_of_mem (f := Prod.fst) hmem
    have hnone : ∀ known ∈ ["alnum", "alpha", "ascii", "blank", "cntrl", "digit", "graph", "lower",
        "print", "punct", "space", "upper", "word", "xdigit"], ')' ∉ known.toList := by decide
    dsimp only at hif
    split at hif
    case isTrue hname => exact absurd (beq_iff_eq.mp hname ▸ h) (hnone known hknown)
    case isFalse => cases hif

/-- The name of a class may begin with a caret. -/
def nameCaret : Text → Bool × Text
  | '^' :: s => (true, s)
  | s => (false, s)

/-- A named class behind its colon and its caret. -/
def nameBehind? (negated : Bool) (s : Text) : Option (Bool × CharSet × Text) :=
  match Text.cutAt ':' s with
  | (name, some (']' :: rest)) => (CharSet.ofName? name).map fun set => (negated, set, rest)
  | _ => none

/-- A named class has its name behind the colon. -/
theorem namedClass?_colon (s : Text) :
    namedClass? (':' :: s) = nameBehind? (nameCaret s).1 (nameCaret s).2 := rfl

/-- A caret of a name is read where it stands. -/
theorem nameCaret_append (s : Text) {t : Text} (ht : t.head? = some ')') :
    nameCaret (s ++ t) = ((nameCaret s).1, (nameCaret s).2 ++ t) := by
  cases s with
  | nil =>
    obtain ⟨t, rfl⟩ := List.head?_eq_some_iff.mp ht
    rfl
  | cons c s =>
    rw [List.cons_append]
    unfold nameCaret
    split
    case h_1 heq =>
      obtain ⟨rfl, rfl⟩ := List.cons.inj heq
      rfl
    case h_2 hne =>
      split
      case h_1 heq =>
        obtain ⟨rfl, rfl⟩ := List.cons.inj heq
        exact absurd rfl (hne (s ++ t))
      case h_2 => rfl

/-- A named class ends in its own bracket. -/
theorem namedClass?_append {found : Bool × CharSet × Text} (h : namedClass? s = some found)
    {t : Text} (ht : t.head? = some ')') :
    namedClass? (s ++ t) = some (found.1, found.2.1, found.2.2 ++ t) := by
  unfold namedClass? at h
  split at h
  case h_1 s =>
    change nameBehind? (nameCaret s).1 (nameCaret s).2 = some found at h
    rw [List.cons_append, namedClass?_colon, nameCaret_append s ht]
    unfold nameBehind? at h ⊢
    split at h
    case h_1 hcut =>
      obtain ⟨set, hset, rfl⟩ := Option.map_eq_some_iff.mp h
      dsimp only
      rw [Text.cutAt_append hcut]
      exact Option.map_eq_some_iff.mpr ⟨set, hset, rfl⟩
    case h_2 => cases h
  case h_2 => cases h

/-- A name that is unknown, or has no end, does not get one from a parenthesis. -/
theorem nameBehind?_append_eq_none {negated : Bool} (h : nameBehind? negated s = none) {t : Text}
    (ht : t.head? = some ')') : nameBehind? negated (s ++ t) = none := by
  obtain ⟨t, rfl⟩ := List.head?_eq_some_iff.mp ht
  unfold nameBehind? at h ⊢
  cases hcut : Text.cutAt ':' s with
  | mk name behind =>
    cases behind with
    | none =>
      -- The name goes on behind the parenthesis.
      rw [Text.cutAt_append_of_none hcut]
      split
      case h_1 heq =>
        rw [CharSet.ofName?_eq_none, Option.map_none]
        rw [← (Prod.mk.inj heq).1, Text.cutAt, if_neg (by decide)]
        simp
      case h_2 => rfl
    | some rest =>
      rw [hcut] at h
      rw [Text.cutAt_append hcut]
      cases rest with
      | nil => rfl
      | cons c rest =>
        by_cases hc : c = ']'
        · subst hc
          exact Option.map_eq_none_iff.mpr (Option.map_eq_none_iff.mp h)
        · simp [hc]

/-- What is no named class does not become one. -/
theorem namedClass?_append_eq_none (h : namedClass? s = none) {t : Text}
    (ht : t.head? = some ')') : namedClass? (s ++ t) = none := by
  cases s with
  | nil =>
    obtain ⟨t, rfl⟩ := List.head?_eq_some_iff.mp ht
    rfl
  | cons c s =>
    by_cases hc : c = ':'
    · subst hc
      rw [namedClass?_colon] at h
      rw [List.cons_append, namedClass?_colon, nameCaret_append s ht]
      exact nameBehind?_append_eq_none h ht
    · simp [namedClass?, hc]

/-! ### Characters and ranges -/

/-- An item of a class is read in the same way. -/
theorem classItem?_append {escape : Escape} (h : classItem? flags s = some (escape, s'))
    {t : Text} (ht : t.head? = some ')') :
    classItem? flags (s ++ t) = some (escape, s' ++ t) := by
  unfold classItem? at h
  split at h
  case h_1 => cases h
  case h_2 => exact Escape.read?_append h ht
  case h_3 c s hne =>
    cases h
    rw [List.cons_append]
    unfold classItem?
    split
    case h_1 heq => cases heq
    case h_2 heq =>
      obtain ⟨rfl, rfl⟩ := List.cons.inj heq
      exact absurd rfl hne
    case h_3 heq =>
      cases heq
      rfl

/-- What stands behind a dash stays there. -/
theorem afterDash?_append {c : Char} (h : afterDash? flags s = some c) (t : Text) :
    afterDash? flags (s ++ t) = some c := by
  have hhead {s : Text} (h : s.head? = some c) : (s ++ t).head? = some c := by
    obtain ⟨rest, rfl⟩ := List.head?_eq_some_iff.mp h
    rfl
  have hdrop {s : Text} (h : (s.dropWhile Text.isBlank).head? = some c) :
      ((s ++ t).dropWhile Text.isBlank).head? = some c := by
    obtain ⟨rest, hrest⟩ := List.head?_eq_some_iff.mp h
    rw [dropWhile_append_of_eq_cons hrest]
    rfl
  unfold afterDash? at h ⊢
  split at h
  case isFalse hx => rw [if_neg hx, hhead h]
  -- Where comments are left out, the dash may have one behind it.
  case isTrue hx =>
    rw [if_pos hx]
    split at h
    case h_1 hhash =>
      rw [dropWhile_append_of_eq_cons hhash]
      exact hdrop h
    case h_2 hne =>
      obtain ⟨rest, hrest⟩ := List.head?_eq_some_iff.mp h
      rw [dropWhile_append_of_eq_cons hrest]
      split
      case h_1 heq =>
        obtain ⟨rfl, -⟩ := List.cons.inj heq
        exact absurd hrest (hne rest)
      case h_2 => rfl

/-- A text of blanks has nothing else to be dropped. -/
theorem Flags.dropSpace_eq_nil (h : s.dropWhile Text.isBlank = []) (comment : Bool) :
    dropSpace comment s = [] := by
  induction s generalizing comment with
  | nil => rfl
  | cons c s ih =>
    rw [List.dropWhile_cons] at h
    split at h
    case isTrue hblank =>
      rw [dropSpace]
      split
      · exact ih h _
      · exact ih h _
    case isFalse => cases h

/-- Blanks at the front can be dropped at once. -/
theorem Flags.dropSpace_dropWhile (s : Text) :
    dropSpace false (s.dropWhile Text.isBlank) = dropSpace false s := by
  induction s with
  | nil => rfl
  | cons c s ih =>
    rw [List.dropWhile_cons]
    split
    case isTrue hblank =>
      rw [ih]
      simp [dropSpace, hblank]
    case isFalse => rfl

/-- Where no character tells what a dash stands for, none counts. -/
theorem skip_eq_nil_of_afterDash? (h : afterDash? flags s = none) : flags.skip s = [] := by
  unfold afterDash? at h
  unfold Flags.skip
  split at h
  case isFalse hx => rw [if_neg hx, List.head?_eq_none_iff.mp h]
  case isTrue hx =>
    rw [if_pos hx, ← Flags.dropSpace_dropWhile]
    split at h
    case h_1 hhash =>
      rw [hhash]
      exact Flags.dropSpace_eq_nil (List.head?_eq_none_iff.mp h) true
    case h_2 => rw [List.head?_eq_none_iff.mp h, Flags.dropSpace]

/-- A range of characters, or a single one, is read in the same way. -/
theorem classRange?_append {set : CharSet} {c : Char}
    (h : classRange? flags s = some (set, c :: s')) {t : Text} (ht : t.head? = some ')') :
    classRange? flags (s ++ t) = some (set, c :: (s' ++ t)) := by
  obtain ⟨⟨low, rest⟩, hlow, h⟩ := Option.bind_eq_some_iff.mp h
  refine Option.bind_eq_some_iff.mpr ⟨_, classItem?_append hlow ht, ?_⟩
  dsimp only at h ⊢
  split at h
  case h_1 behind hskip =>
    simp only [Flags.skip_append hskip]
    -- A dash makes a range only if an upper end follows it.
    cases hdash : afterDash? flags behind with
    | none =>
      rw [hdash, if_neg (by simp), skip_eq_nil_of_afterDash? hdash] at h
      cases h
    | some d =>
      rw [hdash] at h
      rw [afterDash?_append hdash]
      split at h
      case isTrue hd =>
        rw [if_pos hd]
        exact map_rest_append h t
      case isFalse hd =>
        rw [if_neg hd]
        obtain ⟨⟨high, rest'⟩, hhigh, h⟩ := Option.bind_eq_some_iff.mp h
        cases hskip' : flags.skip behind with
        | nil =>
          rw [hskip'] at hhigh
          cases hhigh
        | cons e rest'' =>
          rw [hskip'] at hhigh
          rw [Flags.skip_append hskip']
          exact Option.bind_eq_some_iff.mpr
            ⟨_, classItem?_append hhigh ht, map_rest_append h t⟩
  case h_2 hne =>
    obtain ⟨found, hfound, heq⟩ := Option.map_eq_some_iff.mp h
    obtain ⟨rfl, hskip⟩ := Prod.mk.inj heq
    rw [Flags.skip_append hskip]
    split
    case h_1 heq =>
      obtain ⟨rfl, -⟩ := List.cons.inj heq
      exact absurd hskip (hne s')
    case h_2 => exact Option.map_eq_some_iff.mpr ⟨found, hfound, rfl⟩

/-! ### The class as a whole -/

/-- A character at the front that the text behind does not begin with is in the text before. -/
theorem exists_cons_of_append {c : Char} {t u : Text} (h : s ++ t = c :: u)
    (ht : t.head? ≠ some c) : ∃ rest, s = c :: rest := by
  cases s with
  | nil =>
    rw [List.nil_append] at h
    exact absurd (h ▸ rfl) ht
  | cons e s =>
    obtain ⟨rfl, -⟩ := List.cons.inj h
    exact ⟨s, rfl⟩

/-- A class without a closing bracket is none. -/
theorem classRest?_nil (fuel : Nat) (b : Bracket) (outer : List Bracket) :
    classRest? flags fuel b outer [] = none := by
  cases fuel with
  | zero => rfl
  | succ fuel => rw [classRest?, flags.skip_nil]

/-- A class is read up to its last bracket. -/
theorem classRest?_append {fuel fuel' : Nat} (hfuel : fuel ≤ fuel') {b : Bracket}
    {outer : List Bracket} {set : CharSet} (h : classRest? flags fuel b outer s = some (set, s'))
    {t : Text} (ht : t.head? = some ')') :
    classRest? flags fuel' b outer (s ++ t) = some (set, s' ++ t) := by
  induction fuel generalizing fuel' s b outer with
  | zero => cases h
  | succ fuel ih =>
    obtain ⟨fuel', rfl⟩ := Nat.exists_eq_succ_of_ne_zero (Nat.ne_zero_of_lt hfuel)
    have hfuel := Nat.le_of_succ_le_succ hfuel
    unfold classRest? at h
    split at h
    case h_1 => cases h
    -- A bracket opens a named class or a nested one.
    case h_2 rest hskip =>
      unfold classRest?
      simp only [Flags.skip_append hskip]
      split at h
      case h_1 negated set' behind hnamed =>
        rw [namedClass?_append hnamed ht]
        obtain ⟨set'', hset, h⟩ := Option.bind_eq_some_iff.mp h
        exact Option.bind_eq_some_iff.mpr ⟨set'', hset, ih hfuel h⟩
      case h_2 hnamed =>
        rw [namedClass?_append_eq_none hnamed ht]
        cases hbegin : Bracket.begin flags rest with
        | mk inner behind =>
          rw [hbegin] at h
          dsimp only at h
          cases behind with
          | nil =>
            rw [classRest?_nil] at h
            cases h
          | cons c behind =>
            rw [Bracket.begin_append hbegin]
            exact ih hfuel h
    -- A bracket closes the innermost class.
    case h_3 rest hskip =>
      unfold classRest?
      simp only [Flags.skip_append hskip]
      obtain ⟨closed, hclosed, h⟩ := Option.bind_eq_some_iff.mp h
      refine Option.bind_eq_some_iff.mpr ⟨closed, hclosed, ?_⟩
      split at h
      case h_1 =>
        cases h
        rfl
      case h_2 => exact ih hfuel h
    -- An operator between sets.
    case h_4 hskip | h_5 hskip | h_6 hskip =>
      unfold classRest?
      simp only [Flags.skip_append hskip]
      exact ih hfuel h
    -- Anything else is an item, unless the text behind makes an operator of it.
    case h_7 hnil hopen hclose hand hminus htilde =>
      obtain ⟨⟨item, behind⟩, hitem, h⟩ := Option.bind_eq_some_iff.mp h
      dsimp only at h
      cases behind with
      | nil =>
        rw [classRest?_nil] at h
        cases h
      | cons c behind =>
        cases hskip : flags.skip s with
        | nil => exact absurd hskip hnil
        | cons d rest =>
          rw [hskip] at hitem
          unfold classRest?
          rw [Flags.skip_append hskip]
          split
          case h_1 heq => cases heq
          case h_2 heq =>
            obtain ⟨rfl, -⟩ := List.cons.inj heq
            exact absurd hskip (hopen rest)
          case h_3 heq =>
            obtain ⟨rfl, -⟩ := List.cons.inj heq
            exact absurd hskip (hclose rest)
          case h_4 heq =>
            obtain ⟨rfl, htail⟩ := List.cons.inj heq
            obtain ⟨rest, rfl⟩ := exists_cons_of_append htail (by rw [ht]; decide)
            exact absurd hskip (hand rest)
          case h_5 heq =>
            obtain ⟨rfl, htail⟩ := List.cons.inj heq
            obtain ⟨rest, rfl⟩ := exists_cons_of_append htail (by rw [ht]; decide)
            exact absurd hskip (hminus rest)
          case h_6 heq =>
            obtain ⟨rfl, htail⟩ := List.cons.inj heq
            obtain ⟨rest, rfl⟩ := exists_cons_of_append htail (by rw [ht]; decide)
            exact absurd hskip (htilde rest)
          case h_7 =>
            exact Option.bind_eq_some_iff.mpr ⟨_, classRange?_append hitem ht, ih hfuel h⟩

/-- **A class is read in the same way with a parenthesis behind it.**  The bracket that ends it
stands before, so the parenthesis is looked at only where a name in the class is not closed. -/
theorem readClass?_append {set : CharSet} (h : readClass? flags s = some (set, s')) {t : Text}
    (ht : t.head? = some ')') : readClass? flags (s ++ t) = some (set, s' ++ t) := by
  unfold readClass? at h ⊢
  cases hbegin : Bracket.begin flags s with
  | mk b rest =>
    rw [hbegin] at h
    dsimp only at h
    cases rest with
    | nil =>
      rw [classRest?_nil] at h
      cases h
    | cons c rest =>
      rw [Bracket.begin_append hbegin]
      exact classRest?_append (by rw [List.length_append]; omega) h ht

end Regex
end Routing
