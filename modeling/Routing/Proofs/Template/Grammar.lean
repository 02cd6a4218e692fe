/-
# The grammar of templates

What a template looks like, apart from how it is read.  A template is a sequence of literals and
parameters (`Derives`).  A literal is a run of path characters and slashes; a parameter is a name
with or without a kind, and a kind is a word or an array of a kind (`KindText`).  Spaces and tabs
may stand around names and kinds.

A literal may be cut into several ones wherever a path character ends, so a template has many
derivations.  Whichever is taken, reading the template gives its tokens with neighbouring literals
in one (`parse_of_derives`).

Reading is a step for each character, so the proof goes along the derivation and says for every
part where reading it leads: `read_name`, `read_kindText`, `read_paramText`, `read_run`.  A name or
a word is read in this way only where it does not go on behind its end, and spaces or a delimiter
are what the grammar puts there.
-/

import Routing.Proofs.Token
import Routing.Template

namespace Routing
namespace Template

/-- Spaces and tabs, or nothing. -/
def IsSpaces (s : Text) : Prop := ∀ c ∈ s, c = ' ' ∨ c = '\t'

/-- A letter or an underscore, and then letters, underscores and digits. -/
def IsName (s : Text) : Prop :=
  ∃ c rest, s = c :: rest ∧ (c.isAlpha ∨ c = '_') ∧ ∀ d ∈ rest, d.isAlpha ∨ d.isDigit ∨ d = '_'

/-- The text of the kind of a decoder. -/
inductive KindText : Decoder → Text → Prop where
  /-- The word `string`. -/
  | string : KindText .string "string".toList
  /-- The word `boolean`. -/
  | boolean : KindText .boolean "boolean".toList
  /-- The word `integer`. -/
  | integer : KindText .integer "integer".toList
  /-- The word `float`. -/
  | float : KindText .float "float".toList
  /-- The word `date`. -/
  | date : KindText .date "date".toList
  /-- The word `datetime`. -/
  | datetime : KindText .datetime "datetime".toList
  /-- The word `array` and a kind in angle brackets. -/
  | array {element : Decoder} {s before inside behind : Text} :
    IsSpaces before → IsSpaces inside → KindText element s → IsSpaces behind →
      KindText (.array element)
        ("array".toList ++ before ++ '<' :: inside ++ s ++ behind ++ ['>'])

/-- The text of a parameter; without a kind its values are strings. -/
inductive ParamText : Param → Text → Prop where
  /-- A name. -/
  | bare {name before behind : Text} :
    IsSpaces before → IsName name → IsSpaces behind →
      ParamText ⟨name, .string⟩ ('\x7b' :: before ++ name ++ behind ++ ['\x7d'])
  /-- A name and a kind. -/
  | typed {name kind before behind inside after : Text} {decoder : Decoder} :
    IsSpaces before → IsName name → IsSpaces behind → IsSpaces inside → KindText decoder kind →
      IsSpaces after →
      ParamText ⟨name, decoder⟩
        ('\x7b' :: before ++ name ++ behind ++ ':' :: inside ++ kind ++ after ++ ['\x7d'])

/-- A hexadecimal digit of either case. -/
def IsHexDigit (c : Char) : Prop :=
  ('0' ≤ c ∧ c ≤ '9') ∨ ('A' ≤ c ∧ c ≤ 'F') ∨ ('a' ≤ c ∧ c ≤ 'f')

/-- A character of a path. -/
inductive PathChar : Text → Prop where
  /-- A letter, a digit or one of `-._~`. -/
  | unreserved {c : Char} : c.isAlpha ∨ c.isDigit ∨ c ∈ "-._~".toList → PathChar [c]
  /-- An octet in hexadecimal. -/
  | octet {a b : Char} : IsHexDigit a → IsHexDigit b → PathChar ['%', a, b]
  /-- A delimiter inside of a segment. -/
  | delimiter {c : Char} : c ∈ "!$&'()*+,;=".toList → PathChar [c]
  /-- A colon or an at sign. -/
  | other {c : Char} : c = ':' ∨ c = '@' → PathChar [c]

/-- Path characters and slashes, or nothing. -/
inductive Run : Text → Prop where
  /-- Nothing. -/
  | nil : Run []
  /-- A slash. -/
  | slash {s : Text} : Run s → Run ('/' :: s)
  /-- A path character. -/
  | char {c s : Text} : PathChar c → Run s → Run (c ++ s)

/-- The text is derived from the grammar, and these are its literals and parameters. -/
inductive Derives : Text → List Token → Prop where
  /-- The text is empty. -/
  | nil : Derives [] []
  /-- The text begins with a literal. -/
  | literal {l s : Text} {tokens : List Token} :
    Run l → l ≠ [] → Derives s tokens → Derives (l ++ s) (.literal l :: tokens)
  /-- The text begins with a parameter. -/
  | param {p : Param} {l s : Text} {tokens : List Token} :
    ParamText p l → Derives s tokens → Derives (l ++ s) (.param p :: tokens)

section Characters

variable {c : Char}

/-- Spaces are those of the grammar. -/
theorem isSpace_iff : isSpace c ↔ c = ' ' ∨ c = '\t' := by simp [isSpace]

/-- A name begins as the grammar says. -/
theorem startsName_iff : startsName c ↔ c.isAlpha ∨ c = '_' := by simp [startsName]

/-- A name goes on as the grammar says. -/
theorem continuesName_iff : continuesName c ↔ c.isAlpha ∨ c.isDigit ∨ c = '_' := by
  simp [continuesName, Char.isAlphanum, or_assoc]

/-- Hexadecimal digits are those of the grammar. -/
theorem isSome_hexValue?_iff : (Text.hexValue? c).isSome ↔ IsHexDigit c := by
  unfold Text.hexValue? IsHexDigit
  split
  · simp [*]
  · split
    · simp [*]
    · split <;> simp [*]

/-- A literal consists of the slash and of path characters. -/
theorem isLiteral_iff : isLiteral c ↔ c = '/' ∨ (c.isAlpha ∨ c.isDigit ∨ c ∈ "-._~".toList) ∨
    c ∈ "!$&'()*+,;=".toList ∨ c = ':' ∨ c = '@' := by
  simp only [isLiteral, Char.isAlphanum, String.reduceToList, Bool.or_eq_true, List.contains_cons,
    List.contains_nil, Bool.or_false, beq_iff_eq, List.mem_cons, List.not_mem_nil, or_false]
  grind

/-- What begins a name can also stand further on. -/
theorem continuesName_of_startsName (h : startsName c) : continuesName c := by
  rw [startsName_iff] at h
  rw [continuesName_iff]
  exact h.imp_right .inr

/-- A space ends a name and a word. -/
theorem not_continuesName_of_isSpace (h : isSpace c) : ¬continuesName c := by
  rcases isSpace_iff.mp h with rfl | rfl <;> decide

/-- Letters can stand in names. -/
theorem continuesName_of_isAlpha (h : c.isAlpha) : continuesName c :=
  continuesName_iff.mpr (.inl h)

end Characters

section Reading

variable {st : State} {tokens : List Token} {position : Nat} {rest : Text}

/-- Reading a character and then the others. -/
theorem read_cons {st' : State} {c : Char} (h : step st position c = .ok st') :
    read st position (c :: rest) = read st' (position + 1) rest := by
  rw [read, h]

/-- Characters that are collected at one place. -/
theorem read_collect (place : Text → State) {p : Char → Prop}
    (hstep : ∀ text position c, p c → step (place text) position c = .ok (place (c :: text)))
    {s : Text} (hs : ∀ c ∈ s, p c) (text : Text) :
    read (place text) position (s ++ rest) =
      read (place (s.reverse ++ text)) (position + s.length) rest := by
  induction s generalizing text position with
  | nil => rfl
  | cons c s ih =>
    obtain ⟨hc, hs⟩ := List.forall_mem_cons.mp hs
    rw [List.cons_append, read_cons (hstep text position c hc), ih hs, List.reverse_cons,
      List.append_assoc, List.length_cons, Nat.add_right_comm, Nat.add_assoc]
    rfl

/-- Spaces do not count at the place. -/
def Place.Skips (place : Place) : Prop :=
  ∀ tokens position c, isSpace c → step ⟨place, tokens⟩ position c = .ok ⟨place, tokens⟩

/-- Spaces do not count before a name. -/
theorem skips_beforeName : Place.Skips .beforeName := fun _ _ _ h => if_pos h

/-- Spaces do not count behind a name. -/
theorem skips_afterName (name : Text) : Place.Skips (.afterName name) := fun _ _ _ h => if_pos h

/-- Spaces do not count before a kind. -/
theorem skips_beforeKind (name : Text) (arrays : Nat) : Place.Skips (.beforeKind name arrays) :=
  fun _ _ _ h => if_pos h

/-- Spaces do not count behind the word for arrays. -/
theorem skips_afterArray (name : Text) (arrays : Nat) : Place.Skips (.afterArray name arrays) :=
  fun _ _ _ h => if_pos h

/-- Spaces do not count behind a kind. -/
theorem skips_afterKind (name : Text) (arrays : Nat) (decoder : Decoder) :
    Place.Skips (.afterKind name arrays decoder) :=
  fun _ _ _ h => if_pos h

/-- Where spaces do not count, reading them changes the position alone. -/
theorem read_spaces {place : Place} (h : place.Skips) {s : Text} (hs : IsSpaces s) :
    read ⟨place, tokens⟩ position (s ++ rest) =
      read ⟨place, tokens⟩ (position + s.length) rest :=
  read_collect (fun _ => ⟨place, tokens⟩)
    (fun _ position c hc => h tokens position c (isSpace_iff.mpr hc)) hs []

/-- Spaces and then a text, of which the first character is no space and has no property that
spaces do not have either. -/
theorem head?_append_of_isSpaces {P : Char → Prop} {s : Text} (hs : IsSpaces s) (rest : Text)
    (hspace : ∀ c, isSpace c → P c) (h : ∀ c ∈ rest.head?, P c) : ∀ c ∈ (s ++ rest).head?, P c := by
  cases s with
  | nil => exact h
  | cons c s =>
    rintro _ ⟨⟩
    exact hspace c (isSpace_iff.mpr (hs c List.mem_cons_self))

section Names

variable {name : Text}

/-- Behind a name it does not matter that it was one. -/
theorem read_name_end (h : ∀ c ∈ rest.head?, ¬continuesName c) :
    read ⟨.name name, tokens⟩ position rest =
      read ⟨.afterName name.reverse, tokens⟩ position rest := by
  cases rest with
  | nil => rfl
  | cons c rest =>
    have hstep : step ⟨.name name, tokens⟩ position c =
        step ⟨.afterName name.reverse, tokens⟩ position c := if_neg (h c rfl)
    rw [read, read, hstep]

/-- A name is read up to where it ends. -/
theorem read_name (hname : IsName name) (h : ∀ c ∈ rest.head?, ¬continuesName c) :
    read ⟨.beforeName, tokens⟩ position (name ++ rest) =
      read ⟨.afterName name, tokens⟩ (position + name.length) rest := by
  obtain ⟨c, more, rfl, hc, hmore⟩ := hname
  have hc := startsName_iff.mpr hc
  have hfirst : step ⟨.beforeName, tokens⟩ position c = .ok ⟨.name [c], tokens⟩ := by
    have hspace : ¬isSpace c :=
      fun h => not_continuesName_of_isSpace h (continuesName_of_startsName hc)
    exact (if_neg hspace).trans (if_pos hc)
  have hcollect : read ⟨.name [c], tokens⟩ (position + 1) (more ++ rest) =
      read ⟨.name (more.reverse ++ [c]), tokens⟩ (position + 1 + more.length) rest :=
    read_collect (fun name => ⟨.name name, tokens⟩)
      (fun _ _ _ hc => if_pos (continuesName_iff.mpr hc)) hmore [c]
  rw [List.cons_append, read_cons hfirst, hcollect, read_name_end h]
  simp [Nat.add_assoc, Nat.add_comm 1]

end Names

section Kinds

variable {name : Text} {arrays : Nat}

/-- The letters of a word are collected. -/
theorem read_word {word : Text} (hne : word ≠ []) (hword : ∀ c ∈ word, c.isAlpha) :
    read ⟨.beforeKind name arrays, tokens⟩ position (word ++ rest) =
      read ⟨.kind name arrays position word.reverse, tokens⟩ (position + word.length) rest := by
  obtain ⟨c, more, rfl⟩ := List.exists_cons_of_ne_nil hne
  obtain ⟨hc, hmore⟩ := List.forall_mem_cons.mp hword
  have hfirst : step ⟨.beforeKind name arrays, tokens⟩ position c =
      .ok ⟨.kind name arrays position [c], tokens⟩ := by
    have hspace : ¬isSpace c :=
      fun h => not_continuesName_of_isSpace h (continuesName_of_isAlpha hc)
    exact (if_neg hspace).trans (if_pos hc)
  have hcollect : read ⟨.kind name arrays position [c], tokens⟩ (position + 1) (more ++ rest) =
      read ⟨.kind name arrays position (more.reverse ++ [c]), tokens⟩ (position + 1 + more.length)
        rest :=
    read_collect (fun word => ⟨.kind name arrays position word, tokens⟩)
      (fun _ _ _ hc => if_pos hc) hmore [c]
  rw [List.cons_append, read_cons hfirst, hcollect]
  simp [Nat.add_assoc, Nat.add_comm 1]

/-- Behind the letters of a word it is known what the word is. -/
theorem read_kind_end {word : Text} {start : Nat} (h : ∀ c ∈ rest.head?, ¬c.isAlpha) :
    read ⟨.kind name arrays start word, tokens⟩ position rest =
      if word.reverse = "array".toList then read ⟨.afterArray name arrays, tokens⟩ position rest
      else
        match decoder? word.reverse with
        | some decoder => read ⟨.afterKind name arrays decoder, tokens⟩ position rest
        | none => .error (.unknownKind word.reverse start) := by
  cases rest with
  | nil =>
    simp only [read, finish]
    by_cases harray : word.reverse = "array".toList
    · rw [if_pos (.inl harray), if_pos harray]
    · cases hdecoder : decoder? word.reverse with
      | none =>
        rw [if_neg (not_or.mpr ⟨harray, by simp⟩), if_neg harray]
      | some decoder => rw [if_pos (.inr rfl), if_neg harray]
  | cons c rest =>
    have hstep : step ⟨.kind name arrays start word, tokens⟩ position c =
        readBehindWord ⟨.kind name arrays start word, tokens⟩ name arrays start word.reverse
          position c := if_neg (h c rfl)
    rw [read, hstep, readBehindWord]
    by_cases harray : word.reverse = "array".toList
    · rw [if_pos harray, if_pos harray]
      rfl
    · rw [if_neg harray, if_neg harray]
      cases decoder? word.reverse <;> rfl

/-- A word that is a kind is read as this kind. -/
theorem read_knownWord {word : Text} {decoder : Decoder} (hdecoder : decoder? word = some decoder)
    (hword : ∀ c ∈ word, c.isAlpha) (h : ∀ c ∈ rest.head?, ¬c.isAlpha) :
    read ⟨.beforeKind name arrays, tokens⟩ position (word ++ rest) =
      read ⟨.afterKind name arrays decoder, tokens⟩ (position + word.length) rest := by
  have hne : word ≠ [] := fun heq => absurd (heq ▸ hdecoder) (by simp [decoder?])
  have harray : word ≠ "array".toList := fun heq => absurd (heq ▸ hdecoder) (by simp [decoder?])
  rw [read_word hne hword, read_kind_end h, List.reverse_reverse, if_neg harray, hdecoder]

/-- **A kind is read as its decoder.** -/
theorem read_kindText {decoder : Decoder} {kind : Text} (hkind : KindText decoder kind)
    (h : ∀ c ∈ rest.head?, ¬c.isAlpha) :
    read ⟨.beforeKind name arrays, tokens⟩ position (kind ++ rest) =
      read ⟨.afterKind name arrays decoder, tokens⟩ (position + kind.length) rest := by
  induction hkind generalizing arrays position rest with
  | string => exact read_knownWord rfl (List.all_eq_true.mp (by decide)) h
  | boolean => exact read_knownWord rfl (List.all_eq_true.mp (by decide)) h
  | integer => exact read_knownWord rfl (List.all_eq_true.mp (by decide)) h
  | float => exact read_knownWord rfl (List.all_eq_true.mp (by decide)) h
  | date => exact read_knownWord rfl (List.all_eq_true.mp (by decide)) h
  | datetime => exact read_knownWord rfl (List.all_eq_true.mp (by decide)) h
  -- The spaces and brackets around the inner kind do not go on with a word, so that the inner kind
  -- is read by induction, one bracket deeper.
  | @array element s before inside behind hbefore hinside _ hbehind ih =>
    have hword : ∀ c ∈ "array".toList, c.isAlpha := List.all_eq_true.mp (by decide)
    have hspace : ∀ c, isSpace c → ¬c.isAlpha :=
      fun c hc halpha => not_continuesName_of_isSpace hc (continuesName_of_isAlpha halpha)
    have hopen := head?_append_of_isSpaces hbefore
      ('<' :: (inside ++ (s ++ (behind ++ '>' :: rest)))) hspace (by rintro _ ⟨⟩; decide)
    have hclose := head?_append_of_isSpaces hbehind ('>' :: rest) hspace (by rintro _ ⟨⟩; decide)
    have hlt : ∀ position, step ⟨.afterArray name arrays, tokens⟩ position '<' =
      .ok ⟨.beforeKind name (arrays + 1), tokens⟩ := fun _ => rfl
    have hgt : ∀ position, step ⟨.afterKind name (arrays + 1) element, tokens⟩ position '>' =
      .ok ⟨.afterKind name arrays (.array element), tokens⟩ := fun _ => rfl
    simp only [List.append_assoc, List.cons_append, List.nil_append]
    rw [read_word (by decide) hword, read_kind_end hopen, List.reverse_reverse, if_pos rfl,
      read_spaces (skips_afterArray _ _) hbefore, read_cons (hlt _),
      read_spaces (skips_beforeKind _ _) hinside, ih hclose,
      read_spaces (skips_afterKind _ _ _) hbehind, read_cons (hgt _)]
    congr 1
    simp only [List.length_append, List.length_cons, List.length_nil]
    omega

end Kinds

section Params

variable {text : Text}

/-- A brace begins a parameter and ends the literal before it. -/
theorem read_open : read ⟨.text text, tokens⟩ position ('\x7b' :: rest) =
    read ⟨.beforeName, literalTokens text ++ tokens⟩ (position + 1) rest :=
  read_cons rfl

/-- **A parameter is read as it is meant.** -/
theorem read_paramText {p : Param} {s : Text} (h : ParamText p s) :
    read ⟨.text text, tokens⟩ position (s ++ rest) =
      read ⟨.text [], .param p :: (literalTokens text ++ tokens)⟩ (position + s.length) rest := by
  have hspace : ∀ c, isSpace c → ¬continuesName c := fun c hc => not_continuesName_of_isSpace hc
  cases h with
  -- In both cases the parts are read one after the other, each up to the delimiter behind it.
  | @bare name before behind hbefore hname hbehind =>
    have hend := head?_append_of_isSpaces hbehind ('\x7d' :: rest) hspace
      (by rintro _ ⟨⟩; decide)
    have hclose : ∀ position, step ⟨.afterName name, literalTokens text ++ tokens⟩ position '\x7d' =
      .ok ⟨.text [], .param ⟨name, .string⟩ :: (literalTokens text ++ tokens)⟩ := fun _ => rfl
    simp only [List.append_assoc, List.cons_append, List.nil_append]
    rw [read_open, read_spaces skips_beforeName hbefore, read_name hname hend,
      read_spaces (skips_afterName _) hbehind, read_cons (hclose _)]
    congr 1
    simp only [List.length_append, List.length_cons, List.length_nil]
    omega
  | @typed name kind before behind inside after decoder hbefore hname hbehind hinside hkind hafter =>
    have hend := head?_append_of_isSpaces hbehind
      (':' :: (inside ++ (kind ++ (after ++ '\x7d' :: rest)))) hspace (by rintro _ ⟨⟩; decide)
    have hkindEnd := head?_append_of_isSpaces hafter ('\x7d' :: rest)
      (fun c hc halpha => hspace c hc (continuesName_of_isAlpha halpha)) (by rintro _ ⟨⟩; decide)
    have hcolon : ∀ position, step ⟨.afterName name, literalTokens text ++ tokens⟩ position ':' =
      .ok ⟨.beforeKind name 0, literalTokens text ++ tokens⟩ := fun _ => rfl
    have hclose : ∀ position,
      step ⟨.afterKind name 0 decoder, literalTokens text ++ tokens⟩ position '\x7d' =
      .ok ⟨.text [], .param ⟨name, decoder⟩ :: (literalTokens text ++ tokens)⟩ := fun _ => rfl
    simp only [List.append_assoc, List.cons_append, List.nil_append]
    rw [read_open, read_spaces skips_beforeName hbefore, read_name hname hend,
      read_spaces (skips_afterName _) hbehind, read_cons (hcolon _),
      read_spaces (skips_beforeKind _ _) hinside, read_kindText hkind hkindEnd,
      read_spaces (skips_afterKind _ _ _) hafter, read_cons (hclose _)]
    congr 1
    simp only [List.length_append, List.length_cons, List.length_nil]
    omega

end Params

section Literals

variable {text : Text}

/-- A character that stands for itself goes on with the literal. -/
theorem read_isLiteral {c : Char} (h : isLiteral c) : read ⟨.text text, tokens⟩ position (c :: rest) =
    read ⟨.text (c :: text), tokens⟩ (position + 1) rest := by
  refine read_cons ?_
  have hopen : c ≠ '\x7b' := by
    rintro rfl
    exact absurd h (by decide)
  have hpercent : c ≠ '%' := by
    rintro rfl
    exact absurd h (by decide)
  exact (if_neg hopen).trans ((if_neg hpercent).trans (if_pos h))

/-- A path character goes on with the literal, in one piece or in the three of an octet. -/
theorem read_pathChar {c : Text} (h : PathChar c) : read ⟨.text text, tokens⟩ position (c ++ rest) =
    read ⟨.text (c.reverse ++ text), tokens⟩ (position + c.length) rest := by
  cases h with
  | unreserved h => exact read_isLiteral (isLiteral_iff.mpr (.inr (.inl h)))
  | delimiter h => exact read_isLiteral (isLiteral_iff.mpr (.inr (.inr (.inl h))))
  | other h => exact read_isLiteral (isLiteral_iff.mpr (.inr (.inr (.inr h))))
  | @octet a b ha hb =>
    have hpercent : step ⟨.text text, tokens⟩ position '%' = .ok ⟨.octet ('%' :: text), tokens⟩ :=
      rfl
    have hfirst (position : Nat) : step ⟨.octet ('%' :: text), tokens⟩ position a =
        .ok ⟨.octetDigit (a :: '%' :: text), tokens⟩ := if_pos (isSome_hexValue?_iff.mpr ha)
    have hsecond (position : Nat) : step ⟨.octetDigit (a :: '%' :: text), tokens⟩ position b =
        .ok ⟨.text (b :: a :: '%' :: text), tokens⟩ := if_pos (isSome_hexValue?_iff.mpr hb)
    rw [List.cons_append, read_cons hpercent, List.cons_append, read_cons (hfirst _),
      List.cons_append, read_cons (hsecond _)]
    rfl

/-- **A literal is read as it stands.** -/
theorem read_run {s : Text} (h : Run s) : read ⟨.text text, tokens⟩ position (s ++ rest) =
    read ⟨.text (s.reverse ++ text), tokens⟩ (position + s.length) rest := by
  induction h generalizing text position with
  | nil => rfl
  | @slash s _ ih =>
    rw [List.cons_append, read_isLiteral (by decide), ih]
    simp [Nat.add_assoc, Nat.add_comm 1]
  | @char c s hc _ ih =>
    rw [List.append_assoc, read_pathChar hc, ih]
    simp [Nat.add_assoc]

end Literals

end Reading

/-- The text that was read of a literal, in front of tokens that go on with no other one. -/
theorem push_literal_reverse (text : Text) (tokens : List Token)
    (h : ∀ t, tokens.head? ≠ some (.literal t)) :
    Token.push (.literal text.reverse) tokens = literalTokens text ++ tokens := by
  unfold literalTokens
  cases text with
  | nil => rfl
  | cons c text =>
    obtain ⟨d, more, hreverse⟩ := List.exists_cons_of_ne_nil (l := (c :: text).reverse) (by simp)
    rw [hreverse]
    cases tokens with
    | nil => rfl
    | cons token tokens =>
      cases token with
      | literal t => exact absurd rfl (h t)
      | param p => rfl

/-- At most one token is put down for a literal, so that their order does not matter. -/
theorem reverse_literalTokens (text : Text) : (literalTokens text).reverse = literalTokens text := by
  unfold literalTokens
  split <;> rfl

/-- **Reading a template gives the literals and parameters of any derivation.**  `text` is what
was read of a literal before. -/
theorem read_of_derives {s : Text} {pieces : List Token} (h : Derives s pieces)
    (text : Text) (tokens : List Token) (position : Nat) :
    read ⟨.text text, tokens⟩ position s =
      .ok (tokens.reverse ++ Token.push (.literal text.reverse) (Token.join pieces)) := by
  induction h generalizing text tokens position with
  | nil =>
    have hpush := push_literal_reverse text [] (by simp)
    rw [List.append_nil] at hpush
    show Except.ok (literalTokens text ++ tokens).reverse = _
    rw [List.reverse_append, reverse_literalTokens, ← hpush]
    rfl
  | literal hl _ _ ih =>
    rw [read_run hl, ih, List.reverse_append, List.reverse_reverse,
      ← Token.push_literal_push_literal]
    rfl
  | @param p _ _ pieces hp _ ih =>
    have hpush := push_literal_reverse text (.param p :: Token.join pieces) (by simp)
    rw [read_paramText hp, ih, List.reverse_cons, List.reverse_append, reverse_literalTokens,
      List.append_assoc, List.append_assoc, List.singleton_append]
    exact congrArg (fun rest => Except.ok (tokens.reverse ++ rest)) hpush.symm

/-- **A text that is derived is accepted**, with the tokens of any derivation joined. -/
theorem parse_of_derives {s : Text} {pieces : List Token} (h : Derives s pieces) :
    parse s = .ok (Token.join pieces) :=
  read_of_derives h [] [] 0

end Template
end Routing
