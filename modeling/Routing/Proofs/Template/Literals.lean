/-
# The literals of a template

The text between parameters consists of characters that stand for themselves and of complete
escapes (`isEscaped_of_parse`).  The invariant says so of the complete tokens and of the text that
is being read.

An escape is three characters, read in three steps.  The two places between them hold a text that
is not complete yet, so the invariant names for each place what is still to come.
-/

import Routing.Proofs.Text.Percent
import Routing.Template

namespace Routing
namespace Template

/-- Text between parameters. -/
abbrev IsEscaped (s : Text) : Prop := Percent.Escaped isLiteral s

/-- The text that is being read, in reverse, is complete up to the place. -/
def Place.IsEscaped : Place → Prop
  | .text s => Template.IsEscaped s.reverse
  | .octet s => ∃ t, s = '%' :: t ∧ Template.IsEscaped t.reverse
  | .octetDigit s =>
    ∃ a t, s = a :: '%' :: t ∧ (Text.hexValue? a).isSome ∧ Template.IsEscaped t.reverse
  | _ => True

/-- The literals so far are complete. -/
structure State.IsEscaped (st : State) : Prop where
  /-- The text that is being read. -/
  place : st.place.IsEscaped
  /-- The complete tokens. -/
  tokens : ∀ s, Token.literal s ∈ st.tokens → Template.IsEscaped s

/-- A text of complete escapes goes on with a character that stands for itself. -/
theorem isEscaped_append_singleton {text : Text} {c : Char} (h : IsEscaped text)
    (hc : isLiteral c) : IsEscaped (text ++ [c]) :=
  h.append (.char hc (fun heq => absurd (heq ▸ hc) (by decide)) .nil)

/-- The only literal that is put down is the text that was read. -/
theorem literal_mem_literalTokens {text s : Text} (h : Token.literal s ∈ literalTokens text) :
    s = text.reverse := by
  unfold literalTokens at h
  split at h
  · simp at h
  · exact Token.literal.inj (List.mem_singleton.mp h)

section Steps

variable {st st' : State}

/-- Going on at another place keeps the invariant if the place does. -/
theorem isEscaped_at (h : st.IsEscaped) {place : Place} (heq : st.at place = .ok st')
    (hplace : place.IsEscaped) : st'.IsEscaped := by
  obtain rfl := Except.ok.inj heq
  exact ⟨hplace, h.tokens⟩

/-- The end of a parameter keeps the invariant, as a new text begins there. -/
theorem isEscaped_endParam (h : st.IsEscaped) {name : Text} {decoder : Decoder}
    (heq : st.endParam name decoder = .ok st') : st'.IsEscaped := by
  obtain rfl := Except.ok.inj heq
  refine ⟨.nil, fun s hs => h.tokens s ?_⟩
  rcases List.mem_cons.mp hs with hs | hs
  · cases hs
  · exact hs

/-- A step in a literal keeps the invariant. -/
theorem isEscaped_readText (h : st.IsEscaped) {text : Text} (htext : IsEscaped text.reverse)
    {position : Nat} {c : Char} (heq : readText st text position c = .ok st') :
    st'.IsEscaped := by
  unfold readText at heq
  split at heq
  case isTrue =>
    obtain rfl := Except.ok.inj heq
    refine ⟨trivial, fun s hs => ?_⟩
    rcases List.mem_append.mp hs with hs | hs
    · exact literal_mem_literalTokens hs ▸ htext
    · exact h.tokens s hs
  case isFalse =>
    split at heq
    case isTrue hc => exact isEscaped_at h heq ⟨text, by rw [hc], htext⟩
    case isFalse =>
      split at heq
      case isTrue hc =>
        refine isEscaped_at h heq ?_
        rw [Place.IsEscaped, List.reverse_cons]
        exact isEscaped_append_singleton htext hc
      case isFalse => cases heq

/-- A step behind a name keeps the invariant. -/
theorem isEscaped_readAfterName (h : st.IsEscaped) {name : Text} {position : Nat} {c : Char}
    (heq : readAfterName st name position c = .ok st') : st'.IsEscaped := by
  unfold readAfterName at heq
  split at heq
  · exact isEscaped_at h heq trivial
  · split at heq
    · exact isEscaped_at h heq trivial
    · split at heq
      · exact isEscaped_endParam h heq
      · cases heq

/-- A step behind the word for arrays keeps the invariant. -/
theorem isEscaped_readAfterArray (h : st.IsEscaped) {name : Text} {arrays position : Nat}
    {c : Char} (heq : readAfterArray st name arrays position c = .ok st') : st'.IsEscaped := by
  unfold readAfterArray at heq
  split at heq
  · exact isEscaped_at h heq trivial
  · split at heq
    · exact isEscaped_at h heq trivial
    · cases heq

/-- A step behind a kind keeps the invariant. -/
theorem isEscaped_readAfterKind (h : st.IsEscaped) {name : Text} {arrays : Nat}
    {decoder : Decoder} {position : Nat} {c : Char}
    (heq : readAfterKind st name arrays decoder position c = .ok st') : st'.IsEscaped := by
  unfold readAfterKind at heq
  split at heq
  · exact isEscaped_at h heq trivial
  · split at heq
    · split at heq
      · exact isEscaped_endParam h heq
      · cases heq
    · split at heq
      · exact isEscaped_at h heq trivial
      · cases heq

/-- Reading a character keeps the literals complete. -/
theorem isEscaped_step (h : st.IsEscaped) {position : Nat} {c : Char}
    (heq : step st position c = .ok st') : st'.IsEscaped := by
  have hplace := h.place
  unfold step at heq
  -- Only the places within literals have something to keep.
  cases hst : st.place with
  | text text =>
    rw [hst] at heq hplace
    exact isEscaped_readText h hplace heq
  | octet text =>
    rw [hst] at heq hplace
    obtain ⟨t, rfl, ht⟩ := hplace
    dsimp only at heq
    split at heq
    case isTrue hc => exact isEscaped_at h heq ⟨c, t, rfl, hc, ht⟩
    case isFalse => cases heq
  | octetDigit text =>
    rw [hst] at heq hplace
    obtain ⟨a, t, rfl, ha, ht⟩ := hplace
    dsimp only at heq
    split at heq
    case isTrue hc =>
      refine isEscaped_at h heq ?_
      rw [Place.IsEscaped]
      simp only [List.reverse_cons, List.append_assoc, List.singleton_append]
      exact ht.append (.escape ha hc .nil)
    case isFalse => cases heq
  | beforeName =>
    rw [hst] at heq
    dsimp only at heq
    split at heq
    · exact isEscaped_at h heq trivial
    · split at heq
      · exact isEscaped_at h heq trivial
      · cases heq
  | name name =>
    rw [hst] at heq
    dsimp only at heq
    split at heq
    · exact isEscaped_at h heq trivial
    · exact isEscaped_readAfterName h heq
  | afterName name =>
    rw [hst] at heq
    exact isEscaped_readAfterName h heq
  | beforeKind name arrays =>
    rw [hst] at heq
    dsimp only at heq
    split at heq
    · exact isEscaped_at h heq trivial
    · split at heq
      · exact isEscaped_at h heq trivial
      · cases heq
  | kind name arrays start word =>
    rw [hst] at heq
    dsimp only at heq
    split at heq
    · exact isEscaped_at h heq trivial
    · unfold readBehindWord at heq
      split at heq
      · exact isEscaped_readAfterArray h heq
      · split at heq
        · exact isEscaped_readAfterKind h heq
        · cases heq
  | afterArray name arrays =>
    rw [hst] at heq
    exact isEscaped_readAfterArray h heq
  | afterKind name arrays decoder =>
    rw [hst] at heq
    exact isEscaped_readAfterKind h heq

end Steps

/-- What is read to the end has complete literals. -/
theorem isEscaped_of_read {st : State} (h : st.IsEscaped) {position : Nat} {s : Text}
    {tokens : List Token} (heq : read st position s = .ok tokens) :
    ∀ t, Token.literal t ∈ tokens → IsEscaped t := by
  induction s generalizing st position with
  | nil =>
    have hplace := h.place
    rw [read] at heq
    unfold finish at heq
    split at heq
    case h_1 text hst =>
      obtain rfl := Except.ok.inj heq
      rw [hst] at hplace
      intro t ht
      rcases List.mem_append.mp (List.mem_reverse.mp ht) with ht | ht
      · exact literal_mem_literalTokens ht ▸ hplace
      · exact h.tokens t ht
    case h_2 => split at heq <;> cases heq
    case h_3 => cases heq
  | cons c s ih =>
    rw [read] at heq
    split at heq
    case h_1 st' hst' => exact ih (isEscaped_step h hst') heq
    case h_2 => cases heq

/-- **The literals of a template are complete.** -/
theorem isEscaped_of_parse {s : Text} {tokens : List Token} (h : parse s = .ok tokens) :
    ∀ t, Token.literal t ∈ tokens → IsEscaped t := by
  have hstart : State.IsEscaped {} := ⟨Percent.Escaped.nil, by simp⟩
  exact isEscaped_of_read hstart h

end Template
end Routing
