/-
# Where a text is found to be no template

A text that is refused is refused at its first octet with which no template can go on
(`TemplateError.IsAccurate`): what stands before that octet begins a template, and what includes it
begins none.  A text that ends too early begins a template, and a word that is no kind stands where
a kind is expected, with all of its letters.

Behind every place but an unknown word, a few characters complete a template
(`Place.exists_completion`).  What one character leads to is looked at once for each part of the
reader (`Outcome`), and the failure is found by induction along the text (`State.IsBehind`).

That no template goes on with a refused character is shown by reading: a template is ASCII
(`ascii_of_read`), so its octets are its characters, and reading one that goes on in this way comes
to the place where the character is refused (`State.IsBehind.not_begins`).
-/

import Routing.Proofs.Template.Cursor

namespace Routing
namespace Template

open Cursor (IsAscii charOf)

section Completion

/-- The word is one that kinds are made of. -/
def IsKnown (word : Text) : Prop := word = "array".toList ∨ (decoder? word).isSome

instance (word : Text) : Decidable (IsKnown word) := inferInstanceAs (Decidable (_ ∨ _))

/-- No unknown word was read. -/
def Place.IsViable : Place → Prop
  | .kind _ _ _ reversed => IsKnown reversed.reverse
  | _ => True

/-- A run is derived, as a literal or as nothing. -/
theorem exists_derives_run {s : Text} (h : Run s) : ∃ tokens, Derives s tokens := by
  by_cases hs : s = []
  · exact ⟨[], hs ▸ .nil⟩
  · refine ⟨[.literal s], ?_⟩
    have := Derives.literal h hs .nil
    rwa [List.append_nil] at this

/-- A parameter is derived on its own. -/
theorem exists_derives_param {p : Param} {s : Text} (h : ParamText p s) :
    ∃ tokens, Derives s tokens := by
  refine ⟨[.param p], ?_⟩
  have := Derives.param h .nil
  rwa [List.append_nil] at this

/-- The brackets around a kind and the brace behind it complete a parameter. -/
theorem KindOpens.exists_paramText {name s kind behind : Text} {arrays : Nat} {decoder : Decoder}
    (h : KindOpens name arrays s) (hkind : KindText decoder kind) (hbehind : IsSpaces behind) :
    ∃ p more, ParamText p (s ++ kind ++ behind ++ more) := by
  induction arrays generalizing s kind behind decoder with
  | zero => exact ⟨_, _, h.paramText hkind hbehind⟩
  | succ arrays ih =>
    obtain ⟨outer, kind', houter, hkind', hclose⟩ := h.close hkind hbehind
    obtain ⟨p, more, hparam⟩ := ih houter hkind' .nil
    refine ⟨p, '>' :: more, ?_⟩
    rw [← List.singleton_append, ← List.append_assoc, hclose]
    simpa using hparam

/-- **What was read can be completed**, unless an unknown word was read. -/
theorem Place.exists_completion {place : Place} {s : Text} (h : place.HasRead s)
    (hviable : place.IsViable) : ∃ more tokens, Derives (s ++ more) tokens := by
  have hafterArray {name opened before : Text} {arrays : Nat}
      (hopened : KindOpens name arrays opened) (hbefore : IsSpaces before) :
      ∃ more tokens, Derives (opened ++ "array".toList ++ before ++ more) tokens := by
    obtain ⟨p, more, hparam⟩ := hopened.exists_paramText (.array hbefore .nil .string .nil) .nil
    refine ⟨"<string>".toList ++ more, ?_⟩
    simpa using exists_derives_param hparam
  have hafterKind {name opened kind behind : Text} {arrays : Nat} {decoder : Decoder}
      (hopened : KindOpens name arrays opened) (hkind : KindText decoder kind)
      (hbehind : IsSpaces behind) :
      ∃ more tokens, Derives (opened ++ kind ++ behind ++ more) tokens := by
    obtain ⟨p, more, hparam⟩ := hopened.exists_paramText hkind hbehind
    exact ⟨more, exists_derives_param hparam⟩
  have hafterName {name : Text} (hname : NameRead name s) :
      ∃ more tokens, Derives (s ++ more) tokens := by
    obtain ⟨before, behind, hbefore, hname, hbehind, rfl⟩ := hname
    exact ⟨['\x7d'], exists_derives_param (.bare hbefore hname hbehind)⟩
  have hzero : IsHexDigit '0' := .inl (by decide)
  have hoctet {a b : Char} (ha : IsHexDigit a) (hb : IsHexDigit b) : Run ['%', a, b] :=
    .char (.octet ha hb) .nil
  -- The shortest things will do: zeros for an octet, one letter for a name, strings for a kind.
  cases place with
  | text reversed => exact ⟨[], by rw [List.append_nil]; exact exists_derives_run h.2⟩
  | octet reversed =>
    obtain ⟨-, run, hrun, rfl⟩ := h
    refine ⟨['0', '0'], ?_⟩
    rw [List.append_assoc]
    exact exists_derives_run (hrun.append (hoctet hzero hzero))
  | octetDigit reversed =>
    obtain ⟨-, run, a, hrun, ha, rfl⟩ := h
    refine ⟨['0'], ?_⟩
    rw [List.append_assoc]
    exact exists_derives_run (hrun.append (hoctet ha hzero))
  | beforeName =>
    obtain ⟨before, hbefore, rfl⟩ := h
    have hname : IsName ['a'] := ⟨'a', [], rfl, .inl (by decide), by simp⟩
    refine ⟨['a', '\x7d'], ?_⟩
    simpa using exists_derives_param (.bare hbefore hname .nil)
  | name reversed =>
    obtain ⟨before, hbefore, hname, rfl⟩ := h
    exact hafterName ⟨before, [], hbefore, hname, .nil, by simp⟩
  | afterName name => exact hafterName h
  | beforeKind name arrays =>
    obtain ⟨more, hmore⟩ := hafterKind h .string .nil
    exact ⟨"string".toList ++ more, by simpa using hmore⟩
  | kind name arrays start reversed =>
    obtain ⟨opened, hopened, rfl⟩ := h
    rcases hviable with harray | hdecoder
    · rw [harray]
      simpa using hafterArray hopened .nil
    · obtain ⟨decoder, hdecoder⟩ := Option.isSome_iff_exists.mp hdecoder
      simpa using hafterKind hopened (kindText_of_decoder? hdecoder) .nil
  | afterArray name arrays =>
    obtain ⟨opened, before, hopened, hbefore, rfl⟩ := h
    exact hafterArray hopened hbefore
  | afterKind name arrays decoder =>
    obtain ⟨opened, kind, behind, hopened, hkind, hbehind, rfl⟩ := h
    exact hafterKind hopened hkind hbehind

end Completion

section Steps

/-- A word begins with the character, or goes on with it. -/
inductive Place.Spells (position : Nat) (c : Char) : Place → Place → Prop where
  /-- The word begins. -/
  | first {name : Text} {arrays : Nat} :
    Spells position c (.beforeKind name arrays) (.kind name arrays position [c])
  /-- The word goes on. -/
  | next {name reversed : Text} {arrays start : Nat} :
    Spells position c (.kind name arrays start reversed) (.kind name arrays start (c :: reversed))

/-- The place is in a word. -/
def Place.IsInWord : Place → Prop
  | .kind .. => True
  | _ => False

/-- What one character leads to. -/
inductive Outcome (position : Nat) (c : Char) (place : Place) :
    Except TemplateError State → Prop where
  /-- The character is read, and is not in a word. -/
  | passes {st : State} : IsAscii c → ¬st.place.IsInWord → Outcome position c place (.ok st)
  /-- The character is read, and belongs to a word. -/
  | spells {st : State} :
    c.isAlpha → place.Spells position c st.place → Outcome position c place (.ok st)
  /-- A certain character should be here. -/
  | expectedExact (wanted : Char) :
    place.IsViable →
      Outcome position c place (.error (.expectedExact wanted (leadOctet c) position))
  /-- A character of another use should be here. -/
  | expected (wanted : Expectation) :
    place.IsViable → Outcome position c place (.error (.expected wanted (leadOctet c) position))
  /-- A word has ended that is no kind. -/
  | unknownKind {name reversed : Text} {arrays start : Nat} :
    place = .kind name arrays start reversed → ¬c.isAlpha → ¬IsKnown reversed.reverse →
      Outcome position c place (.error (.unknownKind reversed.reverse start))

variable {st : State} {position : Nat} {c : Char} {place : Place}

/-- Going on at another place, not in a word, is an outcome. -/
theorem outcome_at {next : Place} (hc : IsAscii c) (hnext : ¬next.IsInWord) :
    Outcome position c place (st.at next) := .passes hc hnext

/-- The end of a parameter is an outcome. -/
theorem outcome_endParam {name : Text} {decoder : Decoder} (hc : IsAscii c) :
    Outcome position c place (st.endParam name decoder) := .passes hc id

/-- What a character in a literal leads to. -/
theorem outcome_readText (text : Text) :
    Outcome position c (.text text) (readText st text position c) := by
  unfold readText
  split
  case isTrue hc => exact .passes (hc ▸ by decide) id
  case isFalse =>
    split
    case isTrue hc => exact outcome_at (hc ▸ by decide) id
    case isFalse =>
      split
      case isTrue hc => exact outcome_at (Cursor.isAscii_of_isLiteral hc) id
      case isFalse => exact .expected _ trivial

/-- What a character behind a name leads to, also where the name has just ended. -/
theorem outcome_readAfterName (place : Place) (hviable : place.IsViable) (name : Text) :
    Outcome position c place (readAfterName st name position c) := by
  unfold readAfterName
  split
  case isTrue hc => exact outcome_at (Cursor.isAscii_of_isSpace hc) id
  case isFalse =>
    split
    case isTrue hc => exact outcome_at (hc ▸ by decide) id
    case isFalse =>
      split
      case isTrue hc => exact outcome_endParam (hc ▸ by decide)
      case isFalse => exact .expectedExact _ hviable

/-- What a character behind the word for arrays leads to. -/
theorem outcome_readAfterArray (place : Place) (hviable : place.IsViable) (name : Text)
    (arrays : Nat) :
    Outcome position c place (readAfterArray st name arrays position c) := by
  unfold readAfterArray
  split
  case isTrue hc => exact outcome_at (Cursor.isAscii_of_isSpace hc) id
  case isFalse =>
    split
    case isTrue hc => exact outcome_at (hc ▸ by decide) id
    case isFalse => exact .expectedExact _ hviable

/-- What a character behind a kind leads to, in brackets or without. -/
theorem outcome_readAfterKind (place : Place) (hviable : place.IsViable) (name : Text)
    (arrays : Nat) (decoder : Decoder) :
    Outcome position c place (readAfterKind st name arrays decoder position c) := by
  unfold readAfterKind
  split
  case isTrue hc => exact outcome_at (Cursor.isAscii_of_isSpace hc) id
  case isFalse =>
    split
    case h_1 =>
      split
      case isTrue hc => exact outcome_endParam (hc ▸ by decide)
      case isFalse => exact .expectedExact _ hviable
    case h_2 =>
      split
      case isTrue hc => exact outcome_at (hc ▸ by decide) id
      case isFalse => exact .expectedExact _ hviable

/-- **What one character leads to**, whatever the place is. -/
theorem outcome_step (st : State) (position : Nat) (c : Char) :
    Outcome position c st.place (step st position c) := by
  unfold step
  -- Behind a name, a word or a kind the step is the one behind it, for which there is a lemma.
  cases st.place with
  | text text => exact outcome_readText text
  | octet text =>
    dsimp only
    split
    case isTrue hc => exact outcome_at (Cursor.isAscii_of_hexValue? hc) id
    case isFalse => exact .expected _ trivial
  | octetDigit text =>
    dsimp only
    split
    case isTrue hc => exact outcome_at (Cursor.isAscii_of_hexValue? hc) id
    case isFalse => exact .expected _ trivial
  | beforeName =>
    dsimp only
    split
    case isTrue hc => exact outcome_at (Cursor.isAscii_of_isSpace hc) id
    case isFalse =>
      split
      case isTrue hc => exact outcome_at (Cursor.isAscii_of_startsName hc) id
      case isFalse => exact .expected _ trivial
  | name name =>
    dsimp only
    split
    case isTrue hc => exact outcome_at (Cursor.isAscii_of_continuesName hc) id
    case isFalse => exact outcome_readAfterName (.name name) trivial _
  | afterName name => exact outcome_readAfterName (.afterName name) trivial _
  | beforeKind name arrays =>
    dsimp only
    split
    case isTrue hc => exact outcome_at (Cursor.isAscii_of_isSpace hc) id
    case isFalse =>
      split
      case isTrue hc => exact .spells hc .first
      case isFalse => exact .expected _ trivial
  | kind name arrays start word =>
    dsimp only
    split
    case isTrue hc => exact .spells hc .next
    case isFalse hc =>
      unfold readBehindWord
      split
      case isTrue harray =>
        exact outcome_readAfterArray (.kind name arrays start word) (.inl harray) _ _
      case isFalse harray =>
        split
        case h_1 decoder hdecoder =>
          exact outcome_readAfterKind (.kind name arrays start word)
            (.inr (Option.isSome_of_eq_some hdecoder)) _ _ _
        case h_2 hdecoder =>
          exact .unknownKind rfl hc (not_or.mpr ⟨harray, by simp [hdecoder]⟩)
  | afterArray name arrays => exact outcome_readAfterArray (.afterArray name arrays) trivial _ _
  | afterKind name arrays decoder =>
    exact outcome_readAfterKind (.afterKind name arrays decoder) trivial _ _ _

/-- Only ASCII is read. -/
theorem Outcome.isAscii (h : Outcome position c place (.ok st)) : IsAscii c := by
  cases h with
  | passes hc _ => exact hc
  | spells hc _ => exact Cursor.isAscii_of_isAlpha hc

end Steps

section Acceptance

/-- The octets are those of a template that is accepted. -/
def Accepts (octets : List UInt8) : Prop :=
  ∃ s tokens, parse s = .ok tokens ∧ octets = Utf8.encode s

/-- A template that is accepted begins with the octets. -/
def Begins (octets : List UInt8) : Prop := ∃ more, Accepts (octets ++ more)

/-- What is derived is accepted. -/
theorem Accepts.of_derives {s : Text} {tokens : List Token} (h : Derives s tokens) :
    Accepts (Utf8.encode s) := ⟨s, _, parse_of_derives h, rfl⟩

/-- The text of accepted octets is a template: the octets determine the text. -/
theorem Accepts.exists_parse {s : Text} (h : Accepts (Utf8.encode s)) :
    ∃ tokens, parse s = .ok tokens := by
  obtain ⟨s', tokens, hparse, heq⟩ := h
  have hs : s = s' := by rw [← Utf8.decodeLossy_encode s, heq, Utf8.decodeLossy_encode]
  exact ⟨tokens, hs ▸ hparse⟩

/-- What was read begins a template, unless an unknown word was read. -/
theorem State.HasRead.exists_accepts {st : State} {s : Text} (h : st.HasRead s)
    (hviable : st.place.IsViable) : ∃ more, Accepts (Utf8.encode (s ++ more)) := by
  obtain ⟨done, part, rfl, hdone, hpart⟩ := h
  obtain ⟨more, tokens, hpart⟩ := Place.exists_completion hpart hviable
  refine ⟨more, ?_⟩
  rw [List.append_assoc]
  exact .of_derives (hdone.append hpart)

/-- What was read begins a template, unless an unknown word was read. -/
theorem State.HasRead.begins {st : State} {s : Text} (h : st.HasRead s)
    (hviable : st.place.IsViable) : Begins (Utf8.encode s) := by
  obtain ⟨more, hmore⟩ := h.exists_accepts hviable
  exact ⟨Utf8.encode more, Cursor.encode_append s more ▸ hmore⟩

/-- A template has no characters but those of ASCII. -/
theorem ascii_of_read {st : State} {position : Nat} {s : Text} {tokens : List Token}
    (h : read st position s = .ok tokens) : ∀ c ∈ s, IsAscii c := by
  induction s generalizing st position with
  | nil => simp
  | cons c s ih =>
    have houtcome := outcome_step st position c
    rw [read] at h
    split at h
    case h_1 st' hstep =>
      rw [hstep] at houtcome
      exact List.forall_mem_cons.mpr ⟨houtcome.isAscii, ih h⟩
    case h_2 => cases h

/-- The octets of a text of ASCII give the text back. -/
theorem map_charOf_encode {s : Text} (h : ∀ c ∈ s, IsAscii c) : (Utf8.encode s).map charOf = s := by
  induction s with
  | nil => rfl
  | cons c s ih =>
    obtain ⟨hc, hs⟩ := List.forall_mem_cons.mp h
    have hlead := Cursor.charOf_leadOctet_of_isAscii hc
    rw [leadOctet, Cursor.utf8EncodeChar_of_isAscii hc, List.headD_cons] at hlead
    rw [Utf8.encode, List.flatMap_cons, Cursor.utf8EncodeChar_of_isAscii hc, ← Utf8.encode,
      List.singleton_append, List.map_cons, ih hs, hlead]

/-- The octets in front that have a property of ASCII are those of the characters in front. -/
theorem takeWhile_encode {p : Char → Bool} (hp : ∀ c, p c → IsAscii c) (s : Text) :
    ((Utf8.encode s).takeWhile fun b => p (charOf b)) = Utf8.encode (s.takeWhile p) := by
  have hascii : ∀ c ∈ s.takeWhile p, IsAscii c := fun c hc =>
    hp c (List.all_eq_true.mp List.all_takeWhile c hc)
  have hlength := (Cursor.length_takeWhile_encode hp s).trans
    (Cursor.length_encode_of_isAscii hascii).symm
  have hprefix : Utf8.encode (s.takeWhile p) <+: Utf8.encode s := by
    obtain ⟨t, ht⟩ := s.takeWhile_prefix p
    exact ⟨Utf8.encode t, by rw [← Cursor.encode_append, ht]⟩
  exact (List.prefix_of_prefix_length_le (List.takeWhile_prefix _) hprefix
    (Nat.le_of_eq hlength)).eq_of_length hlength

end Acceptance

section Places

/-- A kind of a parameter is expected behind the text. -/
def ExpectsKind (before : Text) : Prop :=
  ∃ done tokens name arrays opened, Derives done tokens ∧ KindOpens name arrays opened ∧
    before = done ++ opened

/-- Whatever kind stands there, a template begins so. -/
theorem ExpectsKind.begins {before kind : Text} {decoder : Decoder} (h : ExpectsKind before)
    (hkind : KindText decoder kind) : Begins (Utf8.encode before ++ Utf8.encode kind) := by
  obtain ⟨done, tokens, name, arrays, opened, hdone, hopened, rfl⟩ := h
  have hread : State.HasRead ⟨.afterKind name arrays decoder, tokens.reverse⟩
      (done ++ opened ++ kind) := by
    refine ⟨done, opened ++ kind, List.append_assoc _ _ _, ?_, opened, kind, [], hopened, hkind,
      .nil, ?_⟩
    · rwa [List.reverse_reverse]
    · rw [List.append_nil]
  rw [← Cursor.encode_append]
  exact hread.begins trivial

/-- A word that was read stands where a kind is expected. -/
def Place.IsWordOf : Place → Text → Prop
  | .kind _ _ start reversed, s =>
    ∃ before, ExpectsKind before ∧ start = before.length ∧ s = before ++ reversed.reverse ∧
      reversed ≠ [] ∧ ∀ c ∈ reversed, c.isAlpha
  | _, _ => True

/-- The reader stands behind the text that it has read. -/
structure State.IsBehind (st : State) (s : Text) : Prop where
  /-- The text was read. -/
  hasRead : st.HasRead s
  /-- The characters are those of ASCII. -/
  ascii : ∀ c ∈ s, IsAscii c
  /-- Reading on gives what reading all of it gives. -/
  parse_append : ∀ rest, parse (s ++ rest) = read st s.length rest
  /-- A word stands where a kind is expected. -/
  isWordOf : st.place.IsWordOf s

/-- At first the reader stands behind the empty text. -/
theorem isBehind_nil : State.IsBehind {} [] :=
  ⟨⟨[], [], rfl, .nil, rfl, .nil⟩, by simp, fun _ => rfl, trivial⟩

namespace State.IsBehind

variable {st st' : State} {s rest : Text} {c : Char} {e : TemplateError}

/-- A word that begins or goes on stands where a kind is expected. -/
theorem isWordOf_step (h : st.IsBehind s) {next : Place} (hc : c.isAlpha)
    (hspells : st.place.Spells s.length c next) : next.IsWordOf (s ++ [c]) := by
  obtain ⟨⟨done, part, hs, hdone, hpart⟩, -, -, hword⟩ := h
  generalize st.place = place at *
  cases hspells with
  | first =>
    exact ⟨s, ⟨done, _, _, _, part, hdone, hpart, hs⟩, rfl, rfl, by simp, by simpa using hc⟩
  | next =>
    obtain ⟨before, hbefore, hstart, rfl, -, hletters⟩ := hword
    refine ⟨before, hbefore, hstart, ?_, by simp, List.forall_mem_cons.mpr ⟨hc, hletters⟩⟩
    rw [List.reverse_cons, List.append_assoc]

/-- **Reading a character, the reader stands behind it.** -/
theorem step (h : st.IsBehind s) (hstep : Template.step st s.length c = .ok st') :
    st'.IsBehind (s ++ [c]) := by
  have houtcome := outcome_step st s.length c
  rw [hstep] at houtcome
  have hc : IsAscii c := houtcome.isAscii
  refine ⟨hasRead_step h.hasRead hstep, ?_, fun rest => ?_, ?_⟩
  · exact List.forall_mem_append.mpr ⟨h.ascii, by simpa using hc⟩
  · rw [List.append_assoc, List.singleton_append, h.parse_append, read_cons hstep,
      List.length_append, List.length_singleton]
  · cases houtcome with
    | passes _ hnot =>
      generalize st'.place = place at hnot ⊢
      cases place with
      | kind => exact absurd trivial hnot
      | _ => trivial
    | spells hc hspells => exact h.isWordOf_step hc hspells

/-- The text behind the reader has as many octets as characters. -/
theorem length_encode (h : st.IsBehind s) : (Utf8.encode s).length = s.length :=
  Cursor.length_encode_of_isAscii h.ascii

/-- The octets before the position are those of the text behind the reader. -/
theorem take_length (h : st.IsBehind s) (rest : Text) :
    (Utf8.encode (s ++ rest)).take s.length = Utf8.encode s := by
  rw [Cursor.encode_append, ← h.length_encode, List.take_left]

end State.IsBehind

end Places

section Failures

/-- The position is that of the first octet with which no template can go on. -/
structure PointsAt (octets : List UInt8) (actual : UInt8) (position : Nat) : Prop where
  /-- It is the position of the octet that was met. -/
  met : octets[position]? = some actual
  /-- What stands before it begins a template. -/
  begins : Begins (octets.take position)
  /-- With it, no template begins so. -/
  not_begins : ¬Begins (octets.take (position + 1))

/-- The words that kinds are made of. -/
def kindWords : List Text :=
  ["string", "boolean", "integer", "float", "date", "datetime", "array"].map String.toList

/-- At the position a kind is expected, and stands a word that is no kind. -/
structure Misnames (octets : List UInt8) (kind : Text) (position : Nat) : Prop where
  /-- The word has a letter. -/
  ne_nil : kind ≠ []
  /-- The word has all letters from the position on. -/
  letters : Utf8.encode kind = (octets.drop position).takeWhile fun b => (charOf b).isAlpha
  /-- A kind is expected at the position. -/
  expected : ∃ before, octets.take position = Utf8.encode before ∧ ExpectsKind before
  /-- With a kind at the position, a template begins so. -/
  begins : ∀ decoder word, KindText decoder word → Begins (octets.take position ++ Utf8.encode word)
  /-- The word is none of the words for kinds. -/
  unknown : kind ∉ kindWords

/-- The words of kinds are known. -/
theorem isKnown_of_mem : ∀ word ∈ kindWords, IsKnown word := by decide

end Failures

end Template

/-- The failure tells where the octets stop being a template. -/
def TemplateError.IsAccurate (octets : List UInt8) : TemplateError → Prop
  | .expectedExact _ actual position => Template.PointsAt octets actual position
  | .expected _ actual position => Template.PointsAt octets actual position
  | .endOfStream position =>
    position = octets.length ∧ ∃ more, more ≠ [] ∧ Template.Accepts (octets ++ more)
  | .unknownKind kind position => Template.Misnames octets kind position

namespace Template

open Cursor (IsAscii charOf)

namespace State.IsBehind

variable {st : State} {s rest : Text} {c : Char} {e : TemplateError}

/-- With a character that is refused, and even with its first octet, no template begins. -/
theorem not_begins (h : st.IsBehind s) (hstep : Template.step st s.length c = .error e) :
    ¬Begins (Utf8.encode s ++ [leadOctet c]) := by
  rintro ⟨more, u, tokens, hparse, hu⟩
  -- The template is ASCII, so its octets are its characters, and the lead octet is all of `c`.
  have hascii : ∀ d ∈ u, IsAscii d := ascii_of_read hparse
  have heq : s ++ charOf (leadOctet c) :: more.map charOf = u := by
    have := congrArg (List.map charOf) hu
    rwa [map_charOf_encode hascii, List.map_append, List.map_append, map_charOf_encode h.ascii,
      List.append_assoc, List.map_singleton, List.singleton_append] at this
  have hlead : IsAscii (charOf (leadOctet c)) := hascii _ (by simp [← heq])
  have hc : IsAscii c := (Cursor.charOf_leadOctet_iff fun _ h => h).mp hlead
  rw [← heq, Cursor.charOf_leadOctet_of_isAscii hc, h.parse_append,
    Cursor.read_error hstep] at hparse
  cases hparse

/-- A character that is refused stands where the failure says. -/
theorem pointsAt (h : st.IsBehind s) (hviable : st.place.IsViable)
    (hstep : Template.step st s.length c = .error e) (rest : Text) :
    PointsAt (Utf8.encode (s ++ c :: rest)) (leadOctet c) s.length := by
  have hstands : Cursor.Stands (Utf8.encode (s ++ c :: rest)) s (c :: rest) := ⟨h.ascii, rfl⟩
  have hmet : (Utf8.encode (s ++ c :: rest))[s.length]? = some (leadOctet c) := hstands.getElem?
  refine ⟨hmet, ?_, ?_⟩
  · rw [h.take_length]
    exact h.hasRead.begins hviable
  · rw [List.take_add_one, h.take_length, hmet]
    exact h.not_begins hstep

/-- At the end of a word that is no kind. -/
theorem misnames (h : st.IsBehind s) {name reversed : Text} {arrays start : Nat}
    (hplace : st.place = .kind name arrays start reversed) (hknown : ¬IsKnown reversed.reverse)
    (hrest : ∀ c ∈ rest.head?, ¬c.isAlpha) :
    Misnames (Utf8.encode (s ++ rest)) reversed.reverse start := by
  have hword := h.isWordOf
  rw [hplace] at hword
  obtain ⟨before, hbefore, rfl, hs, hne, hletters⟩ := hword
  have hstands : Cursor.Stands (Utf8.encode (s ++ rest)) before (reversed.reverse ++ rest) :=
    ⟨fun c hc => h.ascii c (hs ▸ List.mem_append_left _ hc), by rw [hs, List.append_assoc]⟩
  have htake : (Utf8.encode (s ++ rest)).take before.length = Utf8.encode before := by
    rw [hstands.eq, Cursor.encode_append, ← hstands.length_before, List.take_left]
  refine ⟨by simpa using hne, ?_, ⟨before, htake, hbefore⟩, fun _ _ hkind => ?_,
    fun hmem => hknown (isKnown_of_mem _ hmem)⟩
  · rw [hstands.drop]
    have hend : rest.takeWhile Char.isAlpha = [] := by
      cases rest with
      | nil => rfl
      | cons c rest => exact List.takeWhile_cons_of_neg (hrest c rfl)
    rw [takeWhile_encode fun _ => Cursor.isAscii_of_isAlpha,
      List.takeWhile_append_of_pos (by simpa using hletters), hend, List.append_nil]
  · rw [htake]
    exact hbefore.begins hkind

/-- **Where reading on fails, the failure is accurate.** -/
theorem isAccurate_of_read (h : st.IsBehind s) (hread : read st s.length rest = .error e) :
    e.IsAccurate (Utf8.encode (s ++ rest)) := by
  induction rest generalizing st s with
  | nil =>
    have hnone : ¬Accepts (Utf8.encode (s ++ [])) := fun haccepts => by
      obtain ⟨tokens, hparse⟩ := haccepts.exists_parse
      rw [h.parse_append, hread] at hparse
      cases hparse
    -- The text is refused as too short, and can be completed.
    have hend (hviable : st.place.IsViable) :
        (TemplateError.endOfStream s.length).IsAccurate (Utf8.encode (s ++ [])) := by
      obtain ⟨more, hmore⟩ := h.hasRead.exists_accepts hviable
      refine ⟨by rw [List.append_nil, h.length_encode], Utf8.encode more, fun hnil => ?_, ?_⟩
      · rw [Cursor.encode_append, hnil] at hmore
        exact hnone (by rwa [List.append_nil] at hmore ⊢)
      · rwa [List.append_nil, ← Cursor.encode_append]
    rw [read] at hread
    unfold finish at hread
    split at hread
    case h_1 => cases hread
    case h_2 name arrays start reversed hplace =>
      split at hread
      case isTrue hknown =>
        obtain rfl := Except.error.inj hread
        exact hend (hplace ▸ hknown)
      case isFalse hknown =>
        obtain rfl := Except.error.inj hread
        exact h.misnames hplace hknown (by simp)
    case h_3 place hnotText hnotKind =>
      obtain rfl := Except.error.inj hread
      refine hend ?_
      generalize st.place = place at *
      cases place with
      | kind => exact absurd rfl (hnotKind _ _ _ _)
      | _ => trivial
  | cons c rest ih =>
    rw [read] at hread
    split at hread
    case h_1 st' hstep =>
      have := ih (h.step hstep) (by rwa [List.length_append])
      rwa [List.append_assoc, List.singleton_append] at this
    case h_2 e' hstep =>
      obtain rfl := Except.error.inj hread
      have houtcome := outcome_step st s.length c
      rw [hstep] at houtcome
      cases houtcome with
      | expectedExact _ hviable => exact h.pointsAt hviable hstep rest
      | expected _ hviable => exact h.pointsAt hviable hstep rest
      | unknownKind hplace hc hknown => exact h.misnames hplace hknown (by simpa using hc)

end State.IsBehind

/-- **A text that is no template is refused where it stops being one**, also by the cursor.  What
stands before the place can be completed to a template, and with the byte at the place it can no
longer be; so no earlier place and no later one could have been told.  At the end of the text there
is no such byte, and a kind that is not known is told by its name. -/
theorem isAccurate_of_parse {t : Text} {e : TemplateError} (h : parse t = .error e) :
    Cursor.parse (Utf8.encode t) = .error (.refused e) ∧ e.IsAccurate (Utf8.encode t) :=
  ⟨by rw [Cursor.parse_encode, h]; rfl, isBehind_nil.isAccurate_of_read h⟩

/-- The second digit of an octet is missing, and a word is no kind. -/
theorem isAccurate_octet_kind :
    (parse "/%4é".toList = .error (.expected .hexDigit 0xC3 3) ∧
      PointsAt (Utf8.encode "/%4é".toList) 0xC3 3) ∧
    parse "/\x7bid: array< flot >\x7d".toList = .error (.unknownKind "flot".toList 13) ∧
      Misnames (Utf8.encode "/\x7bid: array< flot >\x7d".toList) "flot".toList 13 := by
  have hoctet : parse "/%4é".toList = .error (.expected .hexDigit 0xC3 3) := rfl
  have hkind : parse "/\x7bid: array< flot >\x7d".toList = .error (.unknownKind "flot".toList 13) :=
    rfl
  exact ⟨⟨hoctet, (isAccurate_of_parse hoctet).2⟩, hkind, (isAccurate_of_parse hkind).2⟩

end Template
end Routing
