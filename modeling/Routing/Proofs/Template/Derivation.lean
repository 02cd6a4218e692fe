/-
# Templates that are read are derived

Whatever a reader accepts is derived from the grammar (`derives_of_parse`).  The invariant says
that what was read is derived up to the last complete token, and that the place stands for the
rest (`State.HasRead`); one step keeps it, whatever the place is (`hasRead_step`).

The lemmas of the grammar say how its parts grow at the end, since a step reads the character
behind what was read.  The nesting of kinds is turned inside out on the way: the text up to a kind
opens some brackets (`Opens`), and each bracket that is closed makes an array of the kind
(`KindOpens.close`).
-/

import Routing.Proofs.Template.Grammar

namespace Routing
namespace Template

/-- The text of a parameter up to its name and the spaces behind it. -/
def NameRead (name s : Text) : Prop :=
  ∃ before behind, IsSpaces before ∧ IsName name ∧ IsSpaces behind ∧
    s = '\x7b' :: before ++ name ++ behind

/-- The text between the colon and a kind, which stands in the brackets of arrays. -/
inductive Opens : Nat → Text → Prop where
  /-- The kind stands in no brackets. -/
  | spaces {s : Text} : IsSpaces s → Opens 0 s
  /-- The kind is that of the items of an array. -/
  | array {n : Nat} {s before inside : Text} :
    Opens n s → IsSpaces before → IsSpaces inside →
      Opens (n + 1) (s ++ "array".toList ++ before ++ '<' :: inside)

/-- The text of a parameter up to where its kind begins. -/
def KindOpens (name : Text) (arrays : Nat) (s : Text) : Prop :=
  ∃ named opened, NameRead name named ∧ Opens arrays opened ∧ s = named ++ ':' :: opened

/-- What was read behind the last complete token. -/
def Place.HasRead : Place → Text → Prop
  | .text reversed, s => s = reversed.reverse ∧ Run s
  | .octet reversed, s => s = reversed.reverse ∧ ∃ run, Run run ∧ s = run ++ ['%']
  | .octetDigit reversed, s =>
    s = reversed.reverse ∧ ∃ run a, Run run ∧ IsHexDigit a ∧ s = run ++ ['%', a]
  | .beforeName, s => ∃ before, IsSpaces before ∧ s = '\x7b' :: before
  | .name reversed, s =>
    ∃ before, IsSpaces before ∧ IsName reversed.reverse ∧ s = '\x7b' :: before ++ reversed.reverse
  | .afterName n, s => NameRead n s
  | .beforeKind n arrays, s => KindOpens n arrays s
  | .kind n arrays _ reversed, s =>
    ∃ opened, KindOpens n arrays opened ∧ s = opened ++ reversed.reverse
  | .afterArray n arrays, s =>
    ∃ opened before, KindOpens n arrays opened ∧ IsSpaces before ∧
      s = opened ++ "array".toList ++ before
  | .afterKind n arrays decoder, s =>
    ∃ opened k behind, KindOpens n arrays opened ∧ KindText decoder k ∧ IsSpaces behind ∧
      s = opened ++ k ++ behind

/-- The text was read. -/
def State.HasRead (st : State) (s : Text) : Prop :=
  ∃ done part, s = done ++ part ∧ Derives done st.tokens.reverse ∧ st.place.HasRead part

section Grammar

/-- No spaces are spaces too. -/
theorem IsSpaces.nil : IsSpaces [] := by simp [IsSpaces]

/-- Spaces go on with a space. -/
theorem IsSpaces.snoc {s : Text} {c : Char} (hs : IsSpaces s) (hc : isSpace c) :
    IsSpaces (s ++ [c]) := by
  intro d hd
  rcases List.mem_append.mp hd with hd | hd
  · exact hs d hd
  · exact List.mem_singleton.mp hd ▸ isSpace_iff.mp hc

/-- A name goes on with a letter, a digit or an underscore. -/
theorem IsName.snoc {s : Text} {c : Char} (hs : IsName s) (hc : continuesName c) :
    IsName (s ++ [c]) := by
  obtain ⟨d, rest, rfl, hd, hrest⟩ := hs
  refine ⟨d, rest ++ [c], rfl, hd, fun e he => ?_⟩
  rcases List.mem_append.mp he with he | he
  · exact hrest e he
  · exact List.mem_singleton.mp he ▸ continuesName_iff.mp hc

/-- Two runs are one. -/
theorem Run.append {s t : Text} (hs : Run s) (ht : Run t) : Run (s ++ t) := by
  induction hs with
  | nil => exact ht
  | slash _ ih => exact .slash ih
  | char hc _ ih =>
    rw [List.append_assoc]
    exact .char hc ih

/-- A character that stands for itself is a run. -/
theorem run_singleton {c : Char} (h : isLiteral c) : Run [c] := by
  rcases isLiteral_iff.mp h with rfl | h | h | h
  · exact .slash .nil
  · exact .char (.unreserved h) .nil
  · exact .char (.delimiter h) .nil
  · exact .char (.other h) .nil

/-- Derived texts can be put together. -/
theorem Derives.append {s t : Text} {tokens tokens' : List Token} (hs : Derives s tokens)
    (ht : Derives t tokens') : Derives (s ++ t) (tokens ++ tokens') := by
  induction hs with
  | nil => exact ht
  | literal hl hne _ ih =>
    rw [List.append_assoc]
    exact .literal hl hne ih
  | param hp _ ih =>
    rw [List.append_assoc]
    exact .param hp ih

/-- A parameter behind a derived text is derived with it. -/
theorem Derives.append_param {s t : Text} {tokens : List Token} {p : Param}
    (hs : Derives s tokens.reverse) (ht : ParamText p t) :
    Derives (s ++ t) (.param p :: tokens).reverse := by
  rw [List.reverse_cons]
  have := hs.append (.param ht .nil)
  rwa [List.append_nil] at this

/-- The literal that was read belongs to what was derived. -/
theorem Derives.append_literal {s text : Text} {tokens : List Token}
    (hs : Derives s tokens.reverse) (ht : Run text.reverse) :
    Derives (s ++ text.reverse) (literalTokens text ++ tokens).reverse := by
  rw [List.reverse_append, reverse_literalTokens]
  refine hs.append ?_
  unfold literalTokens
  cases text with
  | nil => exact .nil
  | cons c text =>
    have := Derives.literal ht (by simp) .nil
    rwa [List.append_nil] at this

/-- Spaces may stand before a kind, in whatever brackets. -/
theorem Opens.snoc {n : Nat} {s : Text} {c : Char} (hs : Opens n s) (hc : isSpace c) :
    Opens n (s ++ [c]) := by
  cases hs with
  | spaces h => exact .spaces (h.snoc hc)
  | array h hbefore hinside =>
    rw [List.append_assoc, List.cons_append]
    exact .array h hbefore (hinside.snoc hc)

/-- A word that is read as a kind is the word of this kind. -/
theorem kindText_of_decoder? {word : Text} {decoder : Decoder} (h : decoder? word = some decoder) :
    KindText decoder word := by
  unfold decoder? at h
  repeat' split at h
  case isTrue heq => cases h; exact heq ▸ .string
  case isFalse.isTrue heq => cases h; exact heq ▸ .boolean
  case isFalse.isFalse.isTrue heq => cases h; exact heq ▸ .integer
  case isFalse.isFalse.isFalse.isTrue heq => cases h; exact heq ▸ .float
  case isFalse.isFalse.isFalse.isFalse.isTrue heq => cases h; exact heq ▸ .date
  case isFalse.isFalse.isFalse.isFalse.isFalse.isTrue heq => cases h; exact heq ▸ .datetime
  case isFalse => cases h

/-- A kind and the brackets around it. -/
theorem KindOpens.close {name s kind behind : Text} {arrays : Nat} {element : Decoder}
    (h : KindOpens name (arrays + 1) s) (hkind : KindText element kind) (hbehind : IsSpaces behind) :
    ∃ opened kind', KindOpens name arrays opened ∧ KindText (.array element) kind' ∧
      s ++ kind ++ behind ++ ['>'] = opened ++ kind' := by
  obtain ⟨named, opened, hnamed, hopened, rfl⟩ := h
  cases hopened with
  | @array _ outer before inside houter hbefore hinside =>
    refine ⟨named ++ ':' :: outer, _, ⟨named, outer, hnamed, houter, rfl⟩,
      .array hbefore hinside hkind hbehind, ?_⟩
    simp only [List.append_assoc, List.cons_append]

/-- A kind that stands in no brackets ends a parameter. -/
theorem KindOpens.paramText {name s kind behind : Text} {decoder : Decoder}
    (h : KindOpens name 0 s) (hkind : KindText decoder kind) (hbehind : IsSpaces behind) :
    ParamText ⟨name, decoder⟩ (s ++ kind ++ behind ++ ['\x7d']) := by
  obtain ⟨named, opened, ⟨before, after, hbefore, hname, hafter, rfl⟩, hopened, rfl⟩ := h
  cases hopened with
  | spaces hspaces =>
    have := ParamText.typed hbefore hname hafter hspaces hkind hbehind
    simpa only [List.append_assoc, List.cons_append] using this

/-- Spaces may stand before the kind of a parameter. -/
theorem KindOpens.snoc {name s : Text} {arrays : Nat} {c : Char} (h : KindOpens name arrays s)
    (hc : isSpace c) : KindOpens name arrays (s ++ [c]) := by
  obtain ⟨named, opened, hnamed, hopened, rfl⟩ := h
  exact ⟨named, opened ++ [c], hnamed, hopened.snoc hc, by simp⟩

end Grammar

section Steps

variable {st st' : State} {done part : Text} {c : Char} {position : Nat}

/-- What is read of a token. -/
theorem hasRead_at (hdone : Derives done st.tokens.reverse) {place : Place}
    (heq : st.at place = .ok st') (hplace : place.HasRead (part ++ [c])) :
    st'.HasRead (done ++ part ++ [c]) := by
  obtain rfl := Except.ok.inj heq
  exact ⟨done, part ++ [c], by rw [List.append_assoc], hdone, hplace⟩

/-- The end of a parameter. -/
theorem hasRead_endParam (hdone : Derives done st.tokens.reverse) {name : Text} {decoder : Decoder}
    (heq : st.endParam name decoder = .ok st') (hparam : ParamText ⟨name, decoder⟩ (part ++ [c])) :
    st'.HasRead (done ++ part ++ [c]) := by
  obtain rfl := Except.ok.inj heq
  refine ⟨done ++ (part ++ [c]), [], by simp, hdone.append_param hparam, rfl, .nil⟩

/-- A step in a literal. -/
theorem hasRead_readText (hdone : Derives done st.tokens.reverse) {text : Text}
    (hpart : Place.HasRead (.text text) part) (heq : readText st text position c = .ok st') :
    st'.HasRead (done ++ part ++ [c]) := by
  obtain ⟨rfl, hrun⟩ := hpart
  unfold readText at heq
  split at heq
  case isTrue hc =>
    obtain rfl := Except.ok.inj heq
    exact ⟨done ++ text.reverse, [c], rfl, hdone.append_literal hrun, [], .nil, by rw [hc]⟩
  case isFalse =>
    split at heq
    case isTrue hc =>
      refine hasRead_at hdone heq ⟨by simp, text.reverse, hrun, by rw [hc]⟩
    case isFalse =>
      split at heq
      case isTrue hc => exact hasRead_at hdone heq ⟨by simp, hrun.append (run_singleton hc)⟩
      case isFalse => cases heq

/-- A step behind a name. -/
theorem hasRead_readAfterName (hdone : Derives done st.tokens.reverse) {name : Text}
    (hpart : NameRead name part) (heq : readAfterName st name position c = .ok st') :
    st'.HasRead (done ++ part ++ [c]) := by
  have ⟨before, behind, hbefore, hname, hbehind, hpart'⟩ := hpart
  unfold readAfterName at heq
  split at heq
  case isTrue hc =>
    refine hasRead_at hdone heq ⟨before, behind ++ [c], hbefore, hname, hbehind.snoc hc, ?_⟩
    rw [hpart', List.append_assoc]
  case isFalse =>
    split at heq
    case isTrue hc => exact hasRead_at hdone heq ⟨part, [], hpart, .spaces .nil, by rw [hc]⟩
    case isFalse =>
      split at heq
      case isTrue hc =>
        refine hasRead_endParam hdone heq ?_
        rw [hpart', hc]
        exact .bare hbefore hname hbehind
      case isFalse => cases heq

/-- A step behind the word for arrays. -/
theorem hasRead_readAfterArray (hdone : Derives done st.tokens.reverse) {name : Text}
    {arrays : Nat} (hpart : Place.HasRead (.afterArray name arrays) part)
    (heq : readAfterArray st name arrays position c = .ok st') :
    st'.HasRead (done ++ part ++ [c]) := by
  obtain ⟨opened, before, hopened, hbefore, rfl⟩ := hpart
  unfold readAfterArray at heq
  split at heq
  case isTrue hc =>
    refine hasRead_at hdone heq ⟨opened, before ++ [c], hopened, hbefore.snoc hc, ?_⟩
    rw [List.append_assoc]
  case isFalse =>
    split at heq
    case isTrue hc =>
      obtain ⟨named, outer, hnamed, houter, rfl⟩ := hopened
      refine hasRead_at hdone heq ⟨named, _, hnamed, .array houter hbefore .nil, ?_⟩
      simp only [hc, List.append_assoc, List.cons_append]
    case isFalse => cases heq

/-- A step behind a kind; a closing bracket makes an array of it. -/
theorem hasRead_readAfterKind (hdone : Derives done st.tokens.reverse) {name : Text}
    {arrays : Nat} {decoder : Decoder}
    (hpart : Place.HasRead (.afterKind name arrays decoder) part)
    (heq : readAfterKind st name arrays decoder position c = .ok st') :
    st'.HasRead (done ++ part ++ [c]) := by
  obtain ⟨opened, kind, behind, hopened, hkind, hbehind, rfl⟩ := hpart
  unfold readAfterKind at heq
  split at heq
  case isTrue hc =>
    refine hasRead_at hdone heq ⟨opened, kind, behind ++ [c], hopened, hkind, hbehind.snoc hc, ?_⟩
    rw [List.append_assoc]
  case isFalse =>
    split at heq
    -- Outside of brackets only the brace ends the kind, and inside only the bracket does.
    case h_1 =>
      split at heq
      case isTrue hc =>
        refine hasRead_endParam hdone heq ?_
        rw [hc]
        exact hopened.paramText hkind hbehind
      case isFalse => cases heq
    case h_2 =>
      split at heq
      case isTrue hc =>
        obtain ⟨outer, kind', houter, hkind', hclose⟩ := hopened.close hkind hbehind
        refine hasRead_at hdone heq ⟨outer, kind', [], houter, hkind', .nil, ?_⟩
        rw [hc, hclose, List.append_nil]
      case isFalse => cases heq

/-- **Reading a character keeps what was read derived.** -/
theorem hasRead_step {s : Text} (h : st.HasRead s) (heq : step st position c = .ok st') :
    st'.HasRead (s ++ [c]) := by
  obtain ⟨done, part, rfl, hdone, hpart⟩ := h
  unfold step at heq
  -- By the place.  The places behind a token that may end there have their own lemmas, which the
  -- place within it shares.
  cases hst : st.place with
  | text text =>
    rw [hst] at heq hpart
    exact hasRead_readText hdone hpart heq
  | octet text =>
    rw [hst] at heq hpart
    obtain ⟨hreverse, run, hrun, hpart⟩ := hpart
    dsimp only at heq
    split at heq
    case isTrue hc =>
      refine hasRead_at hdone heq ⟨by rw [hreverse, List.reverse_cons], run, c, hrun,
        isSome_hexValue?_iff.mp hc, by rw [hpart, List.append_assoc]; rfl⟩
    case isFalse => cases heq
  | octetDigit text =>
    rw [hst] at heq hpart
    obtain ⟨hreverse, run, a, hrun, ha, hpart⟩ := hpart
    dsimp only at heq
    split at heq
    case isTrue hc =>
      have hoctet : Run ['%', a, c] := .char (.octet ha (isSome_hexValue?_iff.mp hc)) .nil
      refine hasRead_at hdone heq ⟨by rw [hreverse, List.reverse_cons], ?_⟩
      rw [hpart, List.append_assoc]
      exact hrun.append hoctet
    case isFalse => cases heq
  | beforeName =>
    rw [hst] at heq hpart
    obtain ⟨before, hbefore, rfl⟩ := hpart
    dsimp only at heq
    split at heq
    case isTrue hc => exact hasRead_at hdone heq ⟨before ++ [c], hbefore.snoc hc, rfl⟩
    case isFalse =>
      split at heq
      case isTrue hc =>
        exact hasRead_at hdone heq
          ⟨before, hbefore, ⟨c, [], rfl, startsName_iff.mp hc, by simp⟩, rfl⟩
      case isFalse => cases heq
  | name name =>
    rw [hst] at heq hpart
    obtain ⟨before, hbefore, hname, rfl⟩ := hpart
    dsimp only at heq
    split at heq
    case isTrue hc =>
      refine hasRead_at hdone heq ⟨before, hbefore, ?_, ?_⟩
      · rw [List.reverse_cons]
        exact hname.snoc hc
      · rw [List.reverse_cons, List.append_assoc]
    case isFalse =>
      exact hasRead_readAfterName hdone ⟨before, [], hbefore, hname, .nil, by simp⟩ heq
  | afterName name =>
    rw [hst] at heq hpart
    exact hasRead_readAfterName hdone hpart heq
  | beforeKind name arrays =>
    rw [hst] at heq hpart
    dsimp only at heq
    split at heq
    case isTrue hc => exact hasRead_at hdone heq (KindOpens.snoc hpart hc)
    case isFalse =>
      split at heq
      case isTrue => exact hasRead_at hdone heq ⟨part, hpart, rfl⟩
      case isFalse => cases heq
  | kind name arrays start word =>
    rw [hst] at heq hpart
    obtain ⟨opened, hopened, rfl⟩ := hpart
    dsimp only at heq
    split at heq
    case isTrue =>
      refine hasRead_at hdone heq ⟨opened, hopened, ?_⟩
      rw [List.reverse_cons, List.append_assoc]
    case isFalse =>
      -- The word has ended before this character, so the step is one behind it.
      unfold readBehindWord at heq
      split at heq
      case isTrue harray =>
        exact hasRead_readAfterArray hdone
          ⟨opened, [], hopened, .nil, by rw [harray, List.append_nil]⟩ heq
      case isFalse =>
        split at heq
        case h_1 decoder hdecoder =>
          exact hasRead_readAfterKind hdone ⟨opened, word.reverse, [], hopened,
            kindText_of_decoder? hdecoder, .nil, by rw [List.append_nil]⟩ heq
        case h_2 => cases heq
  | afterArray name arrays =>
    rw [hst] at heq hpart
    exact hasRead_readAfterArray hdone hpart heq
  | afterKind name arrays decoder =>
    rw [hst] at heq hpart
    exact hasRead_readAfterKind hdone hpart heq

end Steps

/-- What is read to the end is derived. -/
theorem derives_of_read {st : State} {s rest : Text} (h : st.HasRead s) {position : Nat}
    {tokens : List Token} (heq : read st position rest = .ok tokens) :
    Derives (s ++ rest) tokens := by
  induction rest generalizing st s position with
  | nil =>
    obtain ⟨done, part, rfl, hdone, hpart⟩ := h
    rw [read] at heq
    unfold finish at heq
    split at heq
    case h_1 text hst =>
      obtain rfl := Except.ok.inj heq
      rw [hst] at hpart
      obtain ⟨rfl, hrun⟩ := hpart
      rw [List.append_nil]
      exact hdone.append_literal hrun
    case h_2 => split at heq <;> cases heq
    case h_3 => cases heq
  | cons c rest ih =>
    rw [read] at heq
    split at heq
    case h_1 st' hst' =>
      have := ih (hasRead_step h hst') heq
      rwa [List.append_assoc] at this
    case h_2 => cases heq

/-- **What is accepted is derived from the grammar.**  At every character the reader knows a
derivation of what it has read, and at the end nothing is left open. -/
theorem derives_of_parse {s : Text} {tokens : List Token} (h : parse s = .ok tokens) :
    Derives s tokens := by
  have hnothing : State.HasRead {} [] := ⟨[], [], rfl, .nil, rfl, .nil⟩
  exact derives_of_read hnothing h

/-- **A template is accepted with the tokens of a derivation without neighbouring literals.** -/
theorem parse_eq_ok_iff {s : Text} {tokens : List Token} :
    parse s = .ok tokens ↔ Derives s tokens ∧ Token.IsJoined tokens := by
  constructor
  · intro h
    have hderives := derives_of_parse h
    refine ⟨hderives, ?_⟩
    have hjoin := h.symm.trans (parse_of_derives hderives)
    rw [Except.ok.inj hjoin]
    exact Token.isJoined_join tokens
  · rintro ⟨hderives, hjoined⟩
    rw [parse_of_derives hderives, Token.join_eq_self hjoined]

end Template
end Routing
