/-
# Lists of strings in JSON

An array of values is written as a list of strings.  Reading that list gives the strings back
(`parse?_renderStrings`), whatever characters they hold.

The reader has a number of rounds for the items of a list, taken from the length of the text.
-/

import Routing.Json.Reading

namespace Routing
namespace Json

/-- The digits behind `\u00` of a control character. -/
theorem hexDigitsValue?_control : ∀ n < 32,
    Text.hexDigitsValue?
      ['0', '0', (Text.hexDigit (n / 16)).toLower, (Text.hexDigit (n % 16)).toLower] = some n := by
  decide

/-- One character is read as it was written. -/
theorem stringBody?_renderChar (c : Char) (s : Text) :
    stringBody? false (renderChar c ++ s) = consChar c (stringBody? false s) := by
  unfold renderChar
  split
  case isTrue h => subst h; rfl
  case isFalse hquote =>
  split
  case isTrue h => subst h; rfl
  case isFalse hbackslash =>
  split
  case isTrue h => subst h; rfl
  split
  case isTrue h => subst h; rfl
  split
  case isTrue h => subst h; rfl
  split
  case isTrue h => subst h; rfl
  split
  case isTrue h => subst h; rfl
  split
  case isTrue h =>
    -- A control character without a letter of its own is written with four digits.
    have hvalue := hexDigitsValue?_control c.toNat h
    simp only [String.reduceToList, List.cons_append, List.nil_append]
    rw [stringBody?, hvalue]
    dsimp only
    rw [if_neg (by omega), if_neg (by omega), Char.ofNat_toNat]
  case isFalse h =>
    rw [List.singleton_append, stringBody?, if_neg (by simp [h, hbackslash])]
    · exact hquote
    · exact fun _ _ _ _ _ heq => absurd heq hbackslash
    · exact fun _ _ heq => absurd heq hbackslash

/-- A string is read up to its closing quote. -/
theorem stringBody?_flatMap_renderChar (s rest : Text) :
    stringBody? false (s.flatMap renderChar ++ '"' :: rest) = some (s, rest) := by
  induction s with
  | nil => rfl
  | cons c s ih =>
    rw [List.flatMap_cons, List.append_assoc, stringBody?_renderChar, ih]
    rfl

/-- A string is read up to its closing quote, whatever follows. -/
theorem value?_renderString (depth : Nat) (s rest : Text) :
    value? false depth (renderString s ++ rest) = some (string s, rest) := by
  have hscalar : scalar? false (renderString s ++ rest) = some (string s, rest) := by
    rw [renderString, List.append_assoc]
    show (stringBody? false (s.flatMap renderChar ++ '"' :: rest)).map _ = _
    rw [stringBody?_flatMap_renderChar]
    rfl
  cases depth with
  | zero => exact hscalar
  | succ depth => exact hscalar

/-- The strings of a list are read one after the other, with enough rounds. -/
theorem elements?_renderString (depth : Nat) (first : Text) (items : List Text) {fuel : Nat}
    (hfuel : items.length < fuel) (rest : Text) :
    elements? ']' (value? false depth) fuel
        ([','].intercalate ((first :: items).map renderString) ++ ']' :: rest) =
      some ((first :: items).map string, rest) := by
  induction items generalizing first fuel with
  | nil =>
    obtain ⟨fuel, rfl⟩ := Nat.exists_eq_add_one_of_ne_zero (Nat.ne_zero_of_lt hfuel)
    have hvalue := value?_renderString depth first (']' :: rest)
    simp only [List.map_cons, List.map_nil, List.intercalate_singleton]
    rw [elements?, hvalue]
    rfl
  | cons second items ih =>
    obtain ⟨fuel, rfl⟩ := Nat.exists_eq_add_one_of_ne_zero (Nat.ne_zero_of_lt hfuel)
    have hrest := ih second (by simpa using hfuel)
    have hvalue := value?_renderString depth first
      (',' :: ([','].intercalate ((second :: items).map renderString) ++ ']' :: rest))
    rw [List.map_cons, List.intercalate_cons_of_ne_nil (by simp), List.append_assoc,
      List.append_assoc, List.singleton_append, elements?, hvalue]
    show (elements? _ _ _ _).map _ = _
    rw [hrest]
    rfl

/-- A list is written in at least as many characters as it has strings, so the rounds are enough. -/
theorem length_le_length_intercalate (items : List Text) :
    items.length ≤ ([','].intercalate (items.map renderString)).length := by
  induction items with
  | nil => exact Nat.zero_le _
  | cons first items ih =>
    have hfirst : 1 ≤ (renderString first).length := by simp [renderString]
    cases items with
    | nil => simpa using hfirst
    | cons second items =>
      rw [List.map_cons, List.intercalate_cons_of_ne_nil (by simp), List.length_append,
        List.length_append]
      simp only [List.length_cons, List.length_nil] at ih ⊢
      omega

/-- **A written list of strings is read as it was.** -/
theorem parse?_renderStrings (items : List Text) :
    parse? (renderStrings items) = some (array (items.map string)) := by
  have hvalue : value? false depthLimit (renderStrings items) =
      some (array (items.map string), []) := by
    cases items with
    | nil => rfl
    | cons first items =>
      let inner := [','].intercalate ((first :: items).map renderString) ++ [']']
      obtain ⟨s, hs⟩ : ∃ s, inner = '"' :: s := by
        cases items <;> exact ⟨_, rfl⟩
      have hlength := length_le_length_intercalate (first :: items)
      have helements : elements? ']' (value? false 126) inner.length inner =
          some ((first :: items).map string, []) := by
        refine elements?_renderString 126 first items ?_ []
        simp only [inner, List.length_append, List.length_cons, List.length_nil] at hlength ⊢
        omega
      have henclosed : enclosed? ']' (value? false 126) inner =
          elements? ']' (value? false 126) inner.length inner := by
        rw [hs]
        rfl
      show (enclosed? ']' (value? false 126) inner).map _ = _
      rw [henclosed, helements]
      rfl
  rw [parse?, hvalue]
  rfl

/-- A list of strings is told by what it is written with. -/
theorem renderStrings_injective {items items' : List Text}
    (h : renderStrings items = renderStrings items') : items = items' := by
  have hparse := parse?_renderStrings items
  rw [h, parse?_renderStrings] at hparse
  have hmap := Json.array.inj (Option.some.inj hparse)
  exact ((List.map_inj_right fun _ _ => Json.string.inj).mp hmap).symm

end Json
end Routing
