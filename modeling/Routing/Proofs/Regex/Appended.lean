/-
# Reading with more text behind

What was read of a text is read in the same way with more text behind it.  This holds of blanks and
comments that a character ends (`Flags.skip_append`), of directives, of the counts of a repetition
and of escapes.  A boundary of words may be told by braces that follow it, so the text behind an
escape begins with a parenthesis (`Escape.read?_append`).

The reader is defined by matching on the front of the text, so with text behind it the same case
applies, as long as the part that is read has an end of its own: a character that counts, a closing
brace, a fixed number of digits.  Each lemma `..._append` is about one function of the reader and
says that what is left has the further text behind it.  The lemmas about the empty text exclude the
other cases.
-/

import Routing.Regex.Reading

namespace Routing

/-! ### Blanks and comments -/

/-- What stands before a separator does not depend on what follows it. -/
theorem Text.cutAt_append {c : Char} {s before after : Text} (h : cutAt c s = (before, some after))
    (t : Text) : cutAt c (s ++ t) = (before, some (after ++ t)) := by
  induction s generalizing before with
  | nil => cases h
  | cons d s ih =>
    rw [cutAt] at h
    rw [List.cons_append, cutAt]
    split at h
    case isTrue hd =>
      cases h
      rw [if_pos hd]
    case isFalse hd =>
      obtain ⟨rfl, hafter⟩ := Prod.mk.inj h
      rw [if_neg hd, ih (Prod.ext rfl hafter)]

/-- A text without the separator is cut where the text behind it is. -/
theorem Text.cutAt_append_of_none {c : Char} {s before : Text} (h : cutAt c s = (before, none))
    (t : Text) : cutAt c (s ++ t) = (before ++ (cutAt c t).1, (cutAt c t).2) := by
  induction s generalizing before with
  | nil =>
    cases h
    rfl
  | cons d s ih =>
    rw [cutAt] at h
    rw [List.cons_append, cutAt]
    split at h
    case isTrue => cases h
    case isFalse hd =>
      obtain ⟨rfl, hnone⟩ := Prod.mk.inj h
      rw [if_neg hd, ih (Prod.ext rfl hnone)]
      rfl

namespace Regex
namespace Flags

variable {flags : Flags} {s s' : Text}

/-- A character that counts ends the blanks and comments before it. -/
theorem dropSpace_append {comment : Bool} {c : Char} (h : dropSpace comment s = c :: s')
    (t : Text) : dropSpace comment (s ++ t) = c :: (s' ++ t) := by
  induction s generalizing comment with
  | nil => cases h
  | cons d s ih =>
    rw [dropSpace] at h
    rw [List.cons_append, dropSpace]
    split at h
    case isTrue hcomment => rw [if_pos hcomment, ih h]
    case isFalse hcomment =>
      rw [if_neg hcomment]
      split at h
      case isTrue hblank => rw [if_pos hblank, ih h]
      case isFalse hblank =>
        rw [if_neg hblank]
        split at h
        case isTrue hhash => rw [if_pos hhash, ih h]
        case isFalse hhash => rw [if_neg hhash, ← List.cons_append, h, List.cons_append]

/-- Blanks and comments up to the end of a text may end in a comment, which goes on behind it. -/
theorem exists_dropSpace_append {comment : Bool} (h : dropSpace comment s = []) :
    ∃ comment', ∀ t, dropSpace comment (s ++ t) = dropSpace comment' t := by
  induction s generalizing comment with
  | nil => exact ⟨comment, fun t => rfl⟩
  | cons d s ih =>
    rw [dropSpace] at h
    split at h
    case isTrue hcomment =>
      obtain ⟨comment', ih⟩ := ih h
      exact ⟨comment', fun t => by rw [List.cons_append, dropSpace, if_pos hcomment, ih]⟩
    case isFalse hcomment =>
      split at h
      case isTrue hblank =>
        obtain ⟨comment', ih⟩ := ih h
        exact ⟨comment', fun t => by
          rw [List.cons_append, dropSpace, if_neg hcomment, if_pos hblank, ih]⟩
      case isFalse hblank =>
        split at h
        case isTrue hhash =>
          obtain ⟨comment', ih⟩ := ih h
          exact ⟨comment', fun t => by
            rw [List.cons_append, dropSpace, if_neg hcomment, if_neg hblank, if_pos hhash, ih]⟩
        case isFalse => cases h

/-- A comment takes up the whole line. -/
theorem dropSpace_of_not_mem (h : '\n' ∉ s) : dropSpace true s = [] := by
  induction s with
  | nil => rfl
  | cons d s ih =>
    obtain ⟨hd, hs⟩ := not_or.mp (mt List.mem_cons.mpr h)
    have hcomment : (d != '\n') = true := by simpa using Ne.symm hd
    rw [dropSpace, if_pos rfl, hcomment, ih hs]

/-- Nothing is put in place of blanks. -/
theorem length_dropSpace_le (comment : Bool) (s : Text) :
    (dropSpace comment s).length ≤ s.length := by
  induction s generalizing comment with
  | nil => exact Nat.le_refl _
  | cons d s ih =>
    rw [dropSpace]
    split
    · exact Nat.le_succ_of_le (ih _)
    · split
      · exact Nat.le_succ_of_le (ih _)
      · split
        · exact Nat.le_succ_of_le (ih _)
        · exact Nat.le_refl _

/-- Blanks and comments are skipped up to a character that counts. -/
theorem skip_append {c : Char} (h : flags.skip s = c :: s') (t : Text) :
    flags.skip (s ++ t) = c :: (s' ++ t) := by
  unfold skip at h ⊢
  split at h
  case isTrue hx => rw [if_pos hx, dropSpace_append h]
  case isFalse hx => rw [if_neg hx, h, List.cons_append]

/-- Skipping does not make a text longer. -/
theorem length_skip_le (flags : Flags) (s : Text) : (flags.skip s).length ≤ s.length := by
  unfold skip
  split
  · exact length_dropSpace_le false s
  · exact Nat.le_refl _

/-- There is nothing to skip at the end. -/
theorem skip_nil (flags : Flags) : flags.skip [] = [] := by
  unfold skip
  split <;> rfl

/-! ### Names and flags -/

/-- Characters are taken up to one that counts and is not taken. -/
theorem takeBounded_append {p : Char → Bool} {fuel fuel' : Nat} {taken : Text} {c : Char}
    (hfuel : s.length < fuel) (hfuel' : s.length < fuel')
    (h : flags.takeBounded p fuel s = (taken, c :: s')) (t : Text) :
    flags.takeBounded p fuel' (s ++ t) = (taken, c :: (s' ++ t)) := by
  induction fuel generalizing s fuel' taken with
  | zero => exact absurd hfuel (Nat.not_lt_zero _)
  | succ fuel ih =>
    obtain ⟨fuel', rfl⟩ := Nat.exists_eq_succ_of_ne_zero (Nat.ne_zero_of_lt hfuel')
    -- Skipping makes the text no longer, so either fuel is enough.
    have hle := length_skip_le flags s
    rw [takeBounded] at h ⊢
    cases hskip : flags.skip s with
    | nil =>
      rw [hskip] at h
      cases h
    | cons d rest =>
      rw [hskip] at h hle
      rw [skip_append hskip]
      dsimp only at h ⊢
      split at h
      case isTrue hp =>
        obtain ⟨rfl, hrest⟩ := Prod.mk.inj h
        have hlt : rest.length < s.length := hle
        rw [if_pos hp, ih (by omega) (by omega) (Prod.ext rfl hrest)]
      case isFalse hp =>
        obtain ⟨rfl, heq⟩ := Prod.mk.inj h
        obtain ⟨rfl, rfl⟩ := List.cons.inj heq
        rw [if_neg hp]

/-- Characters are taken up to one that counts and is not taken, whatever is behind it. -/
theorem takeWhile_append {p : Char → Bool} {taken : Text} {c : Char}
    (h : flags.takeWhile p s = (taken, c :: s')) (t : Text) :
    flags.takeWhile p (s ++ t) = (taken, c :: (s' ++ t)) :=
  takeBounded_append (Nat.lt_succ_self _) (by rw [List.length_append]; omega) h t

/-- A directive ends in a colon or a parenthesis of its own. -/
theorem directive?_append {seen : List Char} {flags' : Flags} {c : Char}
    (h : flags.directive? seen s = some (flags', c, s')) (t : Text) :
    flags.directive? seen (s ++ t) = some (flags', c, s' ++ t) := by
  -- The text does not end within a directive, so every character that decides stands in it.
  induction s generalizing flags seen with
  | nil => cases h
  | cons d s ih =>
    rw [directive?] at h
    rw [List.cons_append, directive?]
    split at h
    case isTrue hclosing =>
      rw [if_pos hclosing]
      split at h
      case isTrue => cases h
      case isFalse hopen =>
        rw [if_neg hopen]
        cases h
        rfl
    case isFalse hclosing =>
      rw [if_neg hclosing]
      split at h
      case isTrue => cases h
      case isFalse hseen =>
        rw [if_neg hseen]
        split at h
        case isTrue hdash => rw [if_pos hdash, ih h]
        case isFalse hdash =>
          rw [if_neg hdash]
          split at h
          case h_1 => cases h
          case h_2 => exact ih h

end Flags

variable {flags : Flags} {s s' : Text}

/-- Text behind what was found stays behind it. -/
theorem map_rest_append {α β : Type} {found : Option α} {f : α → β} {b : β}
    (h : found.map (fun a => (f a, s)) = some (b, s')) (t : Text) :
    found.map (fun a => (f a, s ++ t)) = some (b, s' ++ t) := by
  obtain ⟨a, ha, heq⟩ := Option.map_eq_some_iff.mp h
  obtain ⟨rfl, rfl⟩ := Prod.mk.inj heq
  exact Option.map_eq_some_iff.mpr ⟨a, ha, rfl⟩

/-- There is nothing to take at the end. -/
theorem Flags.takeWhile_nil (flags : Flags) (p : Char → Bool) :
    flags.takeWhile p [] = ([], []) := by
  rw [takeWhile, List.length_nil, takeBounded, skip_nil]

/-- What is dropped ends at a character that is kept. -/
theorem dropWhile_append_of_eq_cons {p : Char → Bool} {c : Char} (h : s.dropWhile p = c :: s')
    (t : Text) : (s ++ t).dropWhile p = c :: (s' ++ t) := by
  rw [List.dropWhile_append, h]
  rfl

/-! ### Counts of repetitions -/

/-- A count ends at a character that is no digit. -/
theorem count?_append {n : Option Nat} {c : Char} (h : count? flags s = (n, c :: s')) (t : Text) :
    count? flags (s ++ t) = (n, c :: (s' ++ t)) := by
  unfold count? at h ⊢
  cases htake : flags.takeWhile (·.isDigit) (s.dropWhile Text.isBlank) with
  | mk digits rest =>
    rw [htake] at h
    obtain ⟨rfl, hrest⟩ := Prod.mk.inj h
    cases rest with
    | nil => cases hrest
    | cons r rest =>
      cases hdrop : s.dropWhile Text.isBlank with
      | nil =>
        rw [hdrop, flags.takeWhile_nil] at htake
        cases htake
      | cons d s'' =>
        rw [hdrop] at htake
        rw [dropWhile_append_of_eq_cons hdrop, ← List.cons_append, Flags.takeWhile_append htake]
        exact Prod.ext rfl (dropWhile_append_of_eq_cons hrest t)

/-- There is no count at the end. -/
theorem count?_nil (flags : Flags) : count? flags [] = (none, []) := by
  rw [count?, List.dropWhile_nil, flags.takeWhile_nil]
  rfl

/-- A count may stand behind blanks. -/
theorem count?_skip_append {n : Option Nat} {c : Char}
    (h : count? flags (flags.skip s) = (n, c :: s')) (t : Text) :
    count? flags (flags.skip (s ++ t)) = (n, c :: (s' ++ t)) := by
  cases hskip : flags.skip s with
  | nil =>
    rw [hskip, count?_nil] at h
    cases h
  | cons d rest =>
    rw [hskip] at h
    rw [Flags.skip_append hskip, ← List.cons_append, count?_append h]

/-- The counts of a repetition behind its comma. -/
def countsBehindComma? (flags : Flags) (min : Nat) : Text → Option ((Nat × Option Nat) × Text)
  | '\x7d' :: s => some ((min, none), s)
  | s =>
    match count? flags s with
    | (some max, '\x7d' :: s) => if min ≤ max then some ((min, some max), s) else none
    | _ => none

/-- The counts of a repetition behind the first one. -/
def countsBehind? (flags : Flags) (min : Nat) : Text → Option ((Nat × Option Nat) × Text)
  | '\x7d' :: s => some ((min, some min), s)
  | ',' :: s => countsBehindComma? flags min (flags.skip s)
  | _ => none

/-- The counts of a repetition are read one after the other. -/
theorem counts?_eq (flags : Flags) (s : Text) :
    counts? flags s = (count? flags (flags.skip s)).1.bind fun min =>
      countsBehind? flags min (count? flags (flags.skip s)).2 := rfl

/-- The second count ends in the closing brace. -/
theorem countsBehindComma?_append {min : Nat} {counts : Nat × Option Nat}
    (h : countsBehindComma? flags min s = some (counts, s')) (t : Text) :
    countsBehindComma? flags min (s ++ t) = some (counts, s' ++ t) := by
  unfold countsBehindComma? at h
  split at h
  case h_1 =>
    cases h
    rfl
  case h_2 hne =>
    split at h
    case h_2 => cases h
    case h_1 max rest hmax =>
      cases s with
      | nil =>
        rw [count?_nil] at hmax
        cases hmax
      | cons c s =>
        -- Only the first character tells the two forms apart, and it stays the first one.
        have hbrace : c ≠ '\x7d' := fun heq => hne s (heq ▸ rfl)
        rw [List.cons_append]
        unfold countsBehindComma?
        split
        case h_1 heq => exact absurd (List.cons.inj heq).1 hbrace
        case h_2 =>
          rw [← List.cons_append, count?_append hmax]
          split at h
          case isTrue hle =>
            cases h
            exact if_pos hle
          case isFalse => cases h

/-- What follows the first count ends in the closing brace. -/
theorem countsBehind?_append {min : Nat} {counts : Nat × Option Nat}
    (h : countsBehind? flags min s = some (counts, s')) (t : Text) :
    countsBehind? flags min (s ++ t) = some (counts, s' ++ t) := by
  unfold countsBehind? at h
  split at h
  case h_1 =>
    cases h
    rfl
  case h_2 s =>
    cases hskip : flags.skip s with
    | nil =>
      rw [hskip, countsBehindComma?, count?_nil] at h
      · cases h
      · simp
    | cons c rest =>
      rw [hskip] at h
      rw [List.cons_append, countsBehind?, Flags.skip_append hskip]
      exact countsBehindComma?_append h t
  case h_3 => cases h

/-- The counts of a repetition end in their brace. -/
theorem counts?_append {counts : Nat × Option Nat} (h : counts? flags s = some (counts, s'))
    (t : Text) : counts? flags (s ++ t) = some (counts, s' ++ t) := by
  rw [counts?_eq] at h ⊢
  obtain ⟨min, hmin, h⟩ := Option.bind_eq_some_iff.mp h
  cases hrest : (count? flags (flags.skip s)).2 with
  | nil =>
    rw [hrest] at h
    cases h
  | cons c rest =>
    rw [hrest] at h
    rw [count?_skip_append (Prod.ext hmin hrest)]
    exact countsBehind?_append h t

/-! ### Escapes -/

namespace Escape

variable {escape : Escape}

/-- An escape takes a fixed number of digits. -/
theorem hexDigits?_append {n value value' : Nat}
    (h : hexDigits? flags value n s = some (value', s')) (t : Text) :
    hexDigits? flags value n (s ++ t) = some (value', s' ++ t) := by
  induction n generalizing s value with
  | zero =>
    cases h
    rfl
  | succ n ih =>
    rw [hexDigits?] at h ⊢
    cases hskip : flags.skip s with
    | nil =>
      rw [hskip] at h
      cases h
    | cons c rest =>
      rw [hskip] at h
      rw [Flags.skip_append hskip]
      obtain ⟨d, hd, h⟩ := Option.bind_eq_some_iff.mp h
      exact Option.bind_eq_some_iff.mpr ⟨d, hd, ih h⟩

/-- A name in braces ends in the closing one. -/
theorem braced?_append {name : Text} (h : braced? flags s = some (name, s')) (t : Text) :
    braced? flags (s ++ t) = some (name, s' ++ t) := by
  unfold braced? at h ⊢
  split at h
  case h_1 htake =>
    rw [Flags.takeWhile_append htake]
    cases h
    rfl
  case h_2 => cases h

/-- A code point in digits or in braces has an end of its own. -/
theorem codePoint?_append {n : Nat} (hn : n ≠ 0) (h : codePoint? flags n s = some (escape, s'))
    (t : Text) : codePoint? flags n (s ++ t) = some (escape, s' ++ t) := by
  unfold codePoint? at h
  split at h
  -- A code point in braces.
  case h_1 hskip =>
    obtain ⟨⟨digits, rest⟩, hdigits, h⟩ := Option.bind_eq_some_iff.mp h
    rw [codePoint?, Flags.skip_append hskip]
    refine Option.bind_eq_some_iff.mpr ⟨_, braced?_append hdigits t, ?_⟩
    dsimp only at h ⊢
    split at h
    case isTrue => cases h
    case isFalse hne =>
      rw [if_neg hne]
      exact map_rest_append h t
  -- A code point of so many digits.
  case h_2 hne =>
    obtain ⟨⟨value, rest⟩, hdigits, h⟩ := Option.bind_eq_some_iff.mp h
    cases hskip : flags.skip s with
    | nil =>
      obtain ⟨n, rfl⟩ := Nat.exists_eq_succ_of_ne_zero hn
      rw [hskip, hexDigits?, flags.skip_nil] at hdigits
      cases hdigits
    | cons c behind =>
      have hbrace : c ≠ '\x7b' := fun heq => hne behind (heq ▸ hskip)
      rw [codePoint?, Flags.skip_append hskip]
      split
      case h_1 heq => exact absurd (List.cons.inj heq).1 hbrace
      case h_2 =>
        rw [hskip] at hdigits
        refine Option.bind_eq_some_iff.mpr ⟨_, hexDigits?_append hdigits t, ?_⟩
        dsimp only at h ⊢
        split at h
        case isTrue => cases h
        case isFalse hvalue =>
          rw [if_neg hvalue]
          exact map_rest_append h t

/-- The escape of a property. -/
def named? (flags : Flags) (negated : Bool) (name : Text) : Option Escape :=
  if !flags.unicode then none
  else
    (Property.read? name).bind fun known =>
      (flags.complement? negated (flags.fold known)).map set

/-- A property that is known by name, with the text behind it. -/
theorem named?_map (flags : Flags) (negated : Bool) (name rest : Text) :
    (if !flags.unicode then none
    else
      (Property.read? name).bind fun known =>
        (flags.complement? negated (flags.fold known)).map fun found => (set found, rest)) =
      (named? flags negated name).map (·, rest) := by
  unfold named?
  split
  · rfl
  · simp only [Option.map_bind, Option.map_map, Function.comp_def]

/-- The name of a property may stand in braces. -/
theorem property?_brace {negated : Bool} (hskip : flags.skip s = '\x7b' :: s') :
    property? flags negated s = (braced? flags s').bind fun (name, rest) =>
      (named? flags negated name).map (·, rest) := by
  simp only [property?, hskip, named?_map]

/-- The name of a property may be one letter. -/
theorem property?_letter {negated : Bool} {c : Char} (hskip : flags.skip s = c :: s')
    (hc : c ≠ '\x7b') :
    property? flags negated s =
      if c = '\\' then none else (named? flags negated [c]).map (·, s') := by
  simp only [property?, hskip, named?_map]

/-- A property has an end of its own. -/
theorem property?_append {negated : Bool} (h : property? flags negated s = some (escape, s'))
    (t : Text) : property? flags negated (s ++ t) = some (escape, s' ++ t) := by
  cases hskip : flags.skip s with
  | nil =>
    unfold property? at h
    rw [hskip] at h
    cases h
  | cons c rest =>
    have hskip' := Flags.skip_append hskip t
    by_cases hc : c = '\x7b'
    · subst hc
      rw [property?_brace hskip] at h
      obtain ⟨⟨name, rest⟩, hname, h⟩ := Option.bind_eq_some_iff.mp h
      rw [property?_brace hskip']
      exact Option.bind_eq_some_iff.mpr ⟨_, braced?_append hname t, map_rest_append h t⟩
    · rw [property?_letter hskip hc] at h
      obtain ⟨hslash, h⟩ := Option.ite_none_left_eq_some.mp h
      rw [property?_letter hskip' hc, if_neg hslash]
      exact map_rest_append h t

/-- The boundary of words with the name. -/
def boundary? (name : Text) : Option Look :=
  if name = "start".toList then some .wordStart
  else if name = "end".toList then some .wordEnd
  else if name = "start-half".toList then some .wordStartHalf
  else if name = "end-half".toList then some .wordEndHalf
  else none

/-- A boundary that is known by name, with the text behind it. -/
theorem boundary?_map (name rest : Text) :
    (if name = "start".toList then some (look .wordStart, rest)
    else if name = "end".toList then some (look .wordEnd, rest)
    else if name = "start-half".toList then some (look .wordStartHalf, rest)
    else if name = "end-half".toList then some (look .wordEndHalf, rest)
    else none) = (boundary? name).map fun l => (look l, rest) := by
  simp only [boundary?, apply_ite (Option.map fun l => (look l, rest)), Option.map_some,
    Option.map_none]

/-- A parenthesis behind a boundary of words does not tell which one it is. -/
theorem wordBoundary?_append (h : wordBoundary? flags s = some (escape, s')) {t : Text}
    (ht : t.head? = some ')') : wordBoundary? flags (s ++ t) = some (escape, s' ++ t) := by
  unfold wordBoundary? at h
  split at h
  -- Braces may hold the name of a boundary, or be those of a repetition.
  case h_1 inner =>
    split at h
    case h_1 => cases h
    case h_2 c rest hskip =>
      have hskip := Flags.skip_append hskip t
      rw [List.cons_append]
      split at h
      case isTrue hname =>
        obtain ⟨⟨name, behind⟩, hbraced, h⟩ := Option.bind_eq_some_iff.mp h
        simp only [boundary?_map] at h
        unfold wordBoundary?
        simp only [hskip, if_pos hname, braced?_append hbraced t, Option.bind_some, boundary?_map]
        exact map_rest_append h t
      case isFalse hname =>
        cases h
        unfold wordBoundary?
        simp only [hskip, if_neg hname, List.cons_append]
  -- No brace follows, as the text behind begins with a parenthesis.
  case h_2 hne =>
    cases h
    obtain ⟨t, rfl⟩ := List.head?_eq_some_iff.mp ht
    cases s with
    | nil => rfl
    | cons c s =>
      have hbrace : c ≠ '\x7b' := fun heq => hne s (heq ▸ rfl)
      rw [List.cons_append]
      unfold wordBoundary?
      split
      case h_1 heq => exact absurd (List.cons.inj heq).1 hbrace
      case h_2 => rfl

/-- **An escape is read in the same way with a parenthesis behind it.**  The parenthesis is the one
that closes the group around a matcher, and no escape goes on with it. -/
theorem read?_append (h : read? flags s = some (escape, s')) {t : Text}
    (ht : t.head? = some ')') : read? flags (s ++ t) = some (escape, s' ++ t) := by
  cases s with
  | nil => cases h
  | cons c s =>
    rw [read?] at h
    rw [List.cons_append, read?]
    by_cases hx : c = 'x'
    · rw [if_pos hx] at h ⊢
      exact codePoint?_append (by decide) h t
    rw [if_neg hx] at h ⊢
    by_cases hu : c = 'u'
    · rw [if_pos hu] at h ⊢
      exact codePoint?_append (by decide) h t
    rw [if_neg hu] at h ⊢
    by_cases hU : c = 'U'
    · rw [if_pos hU] at h ⊢
      exact codePoint?_append (by decide) h t
    rw [if_neg hU] at h ⊢
    by_cases hp : c = 'p'
    · rw [if_pos hp] at h ⊢
      exact property?_append h t
    rw [if_neg hp] at h ⊢
    by_cases hP : c = 'P'
    · rw [if_pos hP] at h ⊢
      exact property?_append h t
    rw [if_neg hP] at h ⊢
    by_cases hb : c = 'b'
    · rw [if_pos hb] at h ⊢
      exact wordBoundary?_append h ht
    rw [if_neg hb] at h ⊢
    -- The others are one character.
    split at h
    case isTrue hperl =>
      rw [if_pos hperl]
      exact map_rest_append h t
    case isFalse hperl =>
      rw [if_neg hperl]
      exact map_rest_append h t

end Escape

end Regex
end Routing
