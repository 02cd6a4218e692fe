/-
# Reading with a cursor comes to the same

Reading the octets of a text with a cursor gives what reading its characters gives, the same
tokens or the same failure at the same position (`Cursor.parse_encode`).  So no slice lies outside
of the octets, the cursor is never taken back from the first octet, and no loop goes on for ever.

All characters before the cursor are ASCII, and each of them is one octet (`Stands`).  Each part
of the one reader is compared with the places of the other that it goes through (`Agrees`), and
the loop by induction on the rounds that it has left (`loop_eq`).

The two readers differ in three ways.  The cursor goes over octets, and a character that is not
ASCII has several of them; but all classes of characters are within ASCII, so an octet is in a
class exactly if the character that it begins is (`charOf_leadOctet_iff`).  The cursor reads a
whole name or word at once, where the other reader goes from place to place; `Passes` leaves out
the places between.  And the cursor is recursive where kinds are nested, so there is a lemma
`..._agrees` for each of its functions, put together by `Agrees.bind` as the functions are.
-/

import Mathlib.Data.Bool.AllAny
import Routing.Proofs.Template.Derivation
import Routing.Proofs.Text.Percent
import Routing.Proofs.Text.Utf8
import Routing.Template.Cursor

namespace Routing
namespace Template
namespace Cursor

/-- A character of ASCII. -/
def IsAscii (c : Char) : Prop := c.toNat < 128

instance (c : Char) : Decidable (IsAscii c) := inferInstanceAs (Decidable (_ < _))

/-- The cursor stands behind a text of ASCII characters. -/
structure Stands (octets : List UInt8) (before rest : Text) : Prop where
  /-- What is before the cursor is ASCII. -/
  ascii : ∀ c ∈ before, IsAscii c
  /-- The octets are those of the whole text. -/
  eq : octets = Utf8.encode (before ++ rest)

section Characters

variable {c : Char}

/-- A character of ASCII is one octet. -/
theorem utf8EncodeChar_of_isAscii (h : IsAscii c) :
    String.utf8EncodeChar c = [UInt8.ofNat c.toNat] :=
  if_pos (Nat.le_of_lt_succ h)

/-- That octet gives the character back. -/
theorem charOf_leadOctet_of_isAscii (h : IsAscii c) : charOf (leadOctet c) = c := by
  rw [leadOctet, utf8EncodeChar_of_isAscii h, charOf, List.headD_cons,
    Utf8.toNat_ofNat_of_lt (Nat.lt_trans h (by decide)), Char.ofNat_toNat]

/-- The first octet of any other character is none of ASCII. -/
theorem le_toNat_leadOctet (h : ¬IsAscii c) : 128 ≤ (leadOctet c).toNat := by
  have hc : ¬c.val.toNat ≤ 127 := fun hle => h (Nat.lt_succ_of_le hle)
  simp only [leadOctet, String.utf8EncodeChar, hc, if_false]
  split
  · rw [List.headD_cons, Utf8.toNat_ofNat_of_lt (by omega)]
    omega
  · split
    · rw [List.headD_cons, Utf8.toNat_ofNat_of_lt (by omega)]
      omega
    · rw [List.headD_cons, Utf8.toNat_ofNat_of_lt (by omega)]
      omega

/-- An octet and the character with its number have one number. -/
theorem toNat_charOf (b : UInt8) : (charOf b).toNat = b.toNat := by
  have hb := b.toNat_lt
  have hvalid : b.toNat.isValidChar := .inl (by omega)
  rw [charOf, Char.ofNat, dif_pos hvalid]
  rfl

/-- An octet begins a character of a class of ASCII if it is of the class itself. -/
theorem charOf_leadOctet_iff {p : Char → Prop} (hp : ∀ c, p c → IsAscii c) :
    p (charOf (leadOctet c)) ↔ p c := by
  by_cases h : IsAscii c
  · rw [charOf_leadOctet_of_isAscii h]
  · have hlead := le_toNat_leadOctet h
    rw [← toNat_charOf] at hlead
    exact ⟨fun hc => absurd (hp _ hc) (Nat.not_lt_of_le hlead), fun hc => absurd (hp _ hc) h⟩

/-- Letters are ASCII. -/
theorem isAscii_of_isAlpha (h : c.isAlpha) : IsAscii c :=
  Percent.lt_of_isAlphanumeric (Bool.or_eq_true_iff.mpr (.inl h))

/-- Digits are ASCII. -/
theorem isAscii_of_isDigit (h : c.isDigit) : IsAscii c :=
  Percent.lt_of_isAlphanumeric (Bool.or_eq_true_iff.mpr (.inr h))

/-- Spaces and tabs are ASCII. -/
theorem isAscii_of_isSpace (h : isSpace c) : IsAscii c := by
  rcases isSpace_iff.mp h with rfl | rfl <;> decide

/-- What a name begins with is ASCII. -/
theorem isAscii_of_startsName (h : startsName c) : IsAscii c := by
  rcases startsName_iff.mp h with h | rfl
  · exact isAscii_of_isAlpha h
  · decide

/-- What a name goes on with is ASCII. -/
theorem isAscii_of_continuesName (h : continuesName c) : IsAscii c := by
  rcases continuesName_iff.mp h with h | h | rfl
  · exact isAscii_of_isAlpha h
  · exact isAscii_of_isDigit h
  · decide

/-- Hexadecimal digits are ASCII. -/
theorem isAscii_of_hexValue? (h : (Text.hexValue? c).isSome) : IsAscii c :=
  Percent.lt_of_hexValue?_isSome h

/-- The characters of literals are ASCII. -/
theorem isAscii_of_isLiteral (h : isLiteral c) : IsAscii c := by
  have hunreserved : ∀ c ∈ "-._~".toList, IsAscii c :=
    List.all_iff_forall_prop.mp (by decide)
  have hdelimiter : ∀ c ∈ "!$&'()*+,;=".toList, IsAscii c :=
    List.all_iff_forall_prop.mp (by decide)
  rcases isLiteral_iff.mp h with rfl | (h | h | h) | h | h | h
  · decide
  · exact isAscii_of_isAlpha h
  · exact isAscii_of_isDigit h
  · exact hunreserved c h
  · exact hdelimiter c h
  · exact h ▸ (by decide)
  · exact h ▸ (by decide)

end Characters

/-- What follows a success goes on with its result. -/
theorem ok_bind {ε α β : Type} (a : α) (k : α → Except ε β) : (Except.ok a >>= k) = k a := rfl

/-- Nothing follows a failure. -/
theorem error_bind {ε α β : Type} (e : ε) (k : α → Except ε β) :
    (Except.error e >>= k) = .error e := rfl

section Octets

variable {octets : List UInt8} {s before rest : Text} {p : Char → Bool}

/-- Texts are encoded one after the other. -/
theorem encode_append (s t : Text) : Utf8.encode (s ++ t) = Utf8.encode s ++ Utf8.encode t :=
  List.flatMap_append

/-- The octets of a text begin with the lead octet of its first character. -/
theorem head?_encode (s : Text) : (Utf8.encode s).head? = s.head?.map leadOctet := by
  cases s with
  | nil => rfl
  | cons c s =>
    obtain ⟨b, more, hb⟩ := List.exists_cons_of_ne_nil (String.utf8EncodeChar_ne_nil (c := c))
    simp [Utf8.encode, leadOctet, hb]

/-- Positions in ASCII are the same in characters and in octets. -/
theorem length_encode_of_isAscii (h : ∀ c ∈ s, IsAscii c) : (Utf8.encode s).length = s.length := by
  induction s with
  | nil => rfl
  | cons c s ih =>
    obtain ⟨hc, hs⟩ := List.forall_mem_cons.mp h
    rw [Utf8.encode, List.flatMap_cons, utf8EncodeChar_of_isAscii hc, ← Utf8.encode,
      List.length_append, ih hs, List.length_singleton, List.length_cons, Nat.add_comm]

/-- There are no fewer octets than characters, so that as many rounds as octets are enough. -/
theorem length_le_length_encode (s : Text) : s.length ≤ (Utf8.encode s).length := by
  induction s with
  | nil => exact Nat.le_refl _
  | cons c s ih =>
    have hc := List.length_pos_iff.mpr (String.utf8EncodeChar_ne_nil (c := c))
    rw [Utf8.encode, List.flatMap_cons, ← Utf8.encode, List.length_append, List.length_cons]
    omega

/-- As many octets as characters have a property that only ASCII has. -/
theorem length_takeWhile_encode (hp : ∀ c, p c → IsAscii c) (s : Text) :
    ((Utf8.encode s).takeWhile fun b => p (charOf b)).length = (s.takeWhile p).length := by
  induction s with
  | nil => rfl
  | cons c s ih =>
    have hlead := charOf_leadOctet_iff (c := c) hp
    by_cases hc : p c
    · rw [Utf8.encode, List.flatMap_cons, utf8EncodeChar_of_isAscii (hp c hc), ← Utf8.encode,
        List.singleton_append]
      rw [leadOctet, utf8EncodeChar_of_isAscii (hp c hc), List.headD_cons] at hlead
      rw [List.takeWhile_cons_of_pos (p := fun b => p (charOf b)) (hlead.mpr hc),
        List.takeWhile_cons_of_pos hc, List.length_cons, List.length_cons, ih]
    · obtain ⟨b, more, hb⟩ := List.exists_cons_of_ne_nil (String.utf8EncodeChar_ne_nil (c := c))
      rw [leadOctet, hb, List.headD_cons] at hlead
      rw [Utf8.encode, List.flatMap_cons, hb, List.cons_append,
        List.takeWhile_cons_of_neg (p := fun b => p (charOf b)) (mt hlead.mp hc),
        List.takeWhile_cons_of_neg hc, List.length_nil, List.length_nil]

namespace Stands

/-- The cursor is at the position of the first character that was not read. -/
theorem length_before (h : Stands octets before rest) :
    (Utf8.encode before).length = before.length :=
  length_encode_of_isAscii h.ascii

/-- The cursor may go on by a character of ASCII. -/
theorem snoc {c : Char} (h : Stands octets before (c :: rest)) (hc : IsAscii c) :
    Stands octets (before ++ [c]) rest := by
  refine ⟨fun d hd => ?_, by rw [h.eq, List.append_assoc, List.singleton_append]⟩
  rcases List.mem_append.mp hd with hd | hd
  · exact h.ascii d hd
  · exact List.mem_singleton.mp hd ▸ hc

/-- The octets from the cursor on are those of the text that was not read. -/
theorem drop (h : Stands octets before rest) : octets.drop before.length = Utf8.encode rest := by
  rw [h.eq, encode_append, ← h.length_before, List.drop_left]

/-- The next octet is the lead octet of the next character. -/
theorem getElem? (h : Stands octets before rest) :
    octets[before.length]? = rest.head?.map leadOctet := by
  rw [← head?_encode, ← h.drop, List.head?_drop]

/-- The text between two places before the cursor is in range, and is what was read there. -/
theorem slice {start word : Text} (h : Stands octets (start ++ word) rest) :
    slice octets start.length (start ++ word).length = .ok word := by
  have hstart := length_encode_of_isAscii fun c hc => h.ascii c (List.mem_append_left _ hc)
  have htake : octets.take (start ++ word).length = Utf8.encode (start ++ word) := by
    rw [h.eq, encode_append (start ++ word), ← h.length_before, List.take_left]
  have hle : (start ++ word).length ≤ octets.length := by
    rw [← h.length_before, h.eq, encode_append (start ++ word)]
    exact (List.prefix_append _ _).length_le
  rw [Cursor.slice, if_pos ⟨(List.prefix_append _ _).length_le, hle⟩, htake, encode_append, ← hstart,
    List.drop_left, Utf8.decodeLossy_encode]

/-- Skipping the octets of a class skips the characters of the class. -/
theorem skipWhile (h : Stands octets before rest) (hp : ∀ c, p c → IsAscii c) :
    skipWhile octets p before.length = (before ++ rest.takeWhile p).length := by
  rw [Cursor.skipWhile, h.drop, length_takeWhile_encode hp, List.length_append]

/-- No octet is taken at the end. -/
theorem take_nil (h : Stands octets before []) :
    take octets before.length = .error (.refused (.endOfStream before.length)) := by
  rw [Cursor.take, h.getElem?]
  rfl

/-- The octet that is taken is the first one of the next character. -/
theorem take_cons {c : Char} (h : Stands octets before (c :: rest)) :
    take octets before.length = .ok (leadOctet c, before.length + 1) := by
  rw [Cursor.take, h.getElem?]
  rfl

/-- No octet is there to be consumed at the end. -/
theorem consume_nil (h : Stands octets before []) (wanted : Char) :
    consume octets wanted before.length = .error (.refused (.endOfStream before.length)) := by
  rw [Cursor.consume, h.getElem?]
  rfl

/-- An octet is consumed just if the character is the one that is wanted. -/
theorem consume_cons {c : Char} (h : Stands octets before (c :: rest)) (wanted : Char)
    (hwanted : IsAscii wanted) :
    consume octets wanted before.length =
      if c = wanted then .ok (before.length + 1)
      else .error (.refused (.expectedExact wanted (leadOctet c) before.length)) := by
  have hlead : charOf (leadOctet c) = wanted ↔ c = wanted :=
    charOf_leadOctet_iff (p := (· = wanted)) fun c hc => hc ▸ hwanted
  rw [Cursor.consume, h.getElem?]
  by_cases hc : c = wanted
  · rw [if_pos hc]
    exact if_pos (hlead.mpr hc)
  · rw [if_neg hc]
    exact if_neg (mt hlead.mp hc)

end Stands

end Octets

section Simulation

variable {octets : List UInt8} {st st₁ st₂ : State} {before before₁ before₂ rest rest₁ rest₂ : Text}

/-- Reading on comes to another place further on. -/
structure Passes (st : State) (before rest : Text) (st' : State) (before' rest' : Text) : Prop where
  /-- What is passed is ASCII. -/
  moved : ∃ passed, before' = before ++ passed ∧ rest = passed ++ rest' ∧ ∀ c ∈ passed, IsAscii c
  /-- What is read is the same from there. -/
  read_eq : read st before.length rest = read st' before'.length rest'

namespace Passes

/-- A place is passed to itself. -/
theorem refl (st : State) (before rest : Text) : Passes st before rest st before rest :=
  ⟨⟨[], by simp⟩, rfl⟩

/-- Passing one part and then another is passing both. -/
theorem trans (h₁ : Passes st before rest st₁ before₁ rest₁)
    (h₂ : Passes st₁ before₁ rest₁ st₂ before₂ rest₂) : Passes st before rest st₂ before₂ rest₂ := by
  obtain ⟨s, rfl, rfl, hs⟩ := h₁.moved
  obtain ⟨t, rfl, rfl, ht⟩ := h₂.moved
  refine ⟨⟨s ++ t, by simp, by simp, ?_⟩, h₁.read_eq.trans h₂.read_eq⟩
  exact fun c hc => (List.mem_append.mp hc).elim (hs c) (ht c)

/-- The cursor stands at whatever place it has passed to. -/
theorem stands (h : Passes st before rest st₁ before₁ rest₁) (hst : Stands octets before rest) :
    Stands octets before₁ rest₁ := by
  obtain ⟨s, rfl, rfl, hs⟩ := h.moved
  refine ⟨fun c hc => (List.mem_append.mp hc).elim (hst.ascii c) (hs c), ?_⟩
  rw [hst.eq, List.append_assoc]

/-- No more text is left than before. -/
theorem length_le (h : Passes st before rest st₁ before₁ rest₁) : rest₁.length ≤ rest.length := by
  obtain ⟨s, rfl, rfl, -⟩ := h.moved
  simp

/-- Reading a text of ASCII passes it. -/
theorem of_append {s : Text} (hs : ∀ c ∈ s, IsAscii c)
    (h : read st before.length (s ++ rest) = read st₁ (before.length + s.length) rest) :
    Passes st before (s ++ rest) st₁ (before ++ s) rest :=
  ⟨⟨s, rfl, rfl, hs⟩, by rw [h, List.length_append]⟩

/-- Reading one character of ASCII passes it. -/
theorem of_step {c : Char} (hc : IsAscii c) (h : step st before.length c = .ok st₁) (rest : Text) :
    Passes st before (c :: rest) st₁ (before ++ [c]) rest :=
  of_append (s := [c]) (by simpa using hc) (read_cons h)

end Passes

/-- What the cursor gives agrees with reading on: both come to the same place, which depends on
what is given, or both refuse the text with the same failure. -/
inductive Agrees {α : Type} (st : State) (before rest : Text) (next : α → State) :
    Except Stop (α × Nat) → Prop where
  /-- The cursor passes. -/
  | ok {a : α} {before' rest' : Text} :
    Passes st before rest (next a) before' rest' → Agrees st before rest next (.ok (a, before'.length))
  /-- The text is refused. -/
  | refused {cause : TemplateError} :
    read st before.length rest = .error cause → Agrees st before rest next (.error (.refused cause))

namespace Agrees

variable {α β : Type} {next : α → State} {result : Except Stop (α × Nat)}

/-- Reading may go on before the cursor does. -/
theorem of_passes (hpasses : Passes st before rest st₁ before₁ rest₁)
    (h : Agrees st₁ before₁ rest₁ next result) : Agrees st before rest next result := by
  cases h with
  | ok h => exact .ok (hpasses.trans h)
  | refused h => exact .refused (hpasses.read_eq.trans h)

/-- One part after another. -/
theorem bind {next' : β → State} {k : α × Nat → Except Stop (β × Nat)}
    (h : Agrees st before rest next result)
    (hk : ∀ a before' rest', Passes st before rest (next a) before' rest' →
      Agrees (next a) before' rest' next' (k (a, before'.length))) :
    Agrees st before rest next' (result >>= k) := by
  cases h with
  | ok h => exact (hk _ _ _ h).of_passes h
  | refused h => exact .refused h

end Agrees

/-- The cursor passes the characters of a class of ASCII. -/
theorem exists_span {p : Char → Bool} (hp : ∀ c, p c → IsAscii c) (h : Stands octets before rest) :
    ∃ word rest', rest = word ++ rest' ∧ (∀ c ∈ word, p c) ∧ (∀ c ∈ rest'.head?, ¬p c) ∧
      skipWhile octets p before.length = (before ++ word).length := by
  refine ⟨rest.takeWhile p, rest.dropWhile p, List.takeWhile_append_dropWhile.symm,
    List.all_eq_true.mp List.all_takeWhile, fun c hc hpc => ?_, h.skipWhile hp⟩
  have hhead := List.head?_dropWhile_not p rest
  rw [Option.mem_def.mp hc] at hhead
  simp [hpc] at hhead

/-- Where spaces do not count, both readers pass all of them. -/
theorem exists_passes_spaces {place : Place} (hplace : place.Skips) (tokens : List Token)
    (h : Stands octets before rest) :
    ∃ before' rest', skipSpaces octets before.length = before'.length ∧
      Passes ⟨place, tokens⟩ before rest ⟨place, tokens⟩ before' rest' ∧
      ∀ c ∈ rest'.head?, ¬isSpace c := by
  obtain ⟨s, rest', rfl, hs, hrest, hskip⟩ := exists_span (fun _ => isAscii_of_isSpace) h
  exact ⟨before ++ s, rest', hskip, .of_append (fun c hc => isAscii_of_isSpace (hs c hc))
    (read_spaces hplace fun c hc => isSpace_iff.mp (hs c hc)), hrest⟩

section Parts

variable {α : Type} {next : α → State} {c : Char} {name : Text} {tokens : List Token} {arrays : Nat}

/-- A certain character and then another part. -/
theorem Agrees.consume_bind {wanted : Char} {k : Nat → Except Stop (α × Nat)}
    (h : Stands octets before rest) (hwanted : IsAscii wanted)
    (hok : step st before.length wanted = .ok st₁)
    (herror : ∀ c ∈ rest.head?, c ≠ wanted →
      step st before.length c = .error (.expectedExact wanted (leadOctet c) before.length))
    (hend : finish st before.length = .error (.endOfStream before.length))
    (hk : ∀ rest', rest = wanted :: rest' →
      Agrees st₁ (before ++ [wanted]) rest' next (k (before ++ [wanted]).length)) :
    Agrees st before rest next (consume octets wanted before.length >>= k) := by
  cases rest with
  | nil =>
    rw [h.consume_nil]
    exact .refused hend
  | cons c rest =>
    rw [h.consume_cons wanted hwanted]
    by_cases hc : c = wanted
    · subst hc
      rw [if_pos rfl, ← List.length_singleton (a := c), ← List.length_append]
      exact (hk rest rfl).of_passes (.of_step hwanted hok _)
    · rw [if_neg hc]
      exact .refused (by rw [read, herror c rfl hc])

/-- Reading stops with the failure of its first step. -/
theorem read_error {cause : TemplateError} (h : step st before.length c = .error cause) :
    read st before.length (c :: rest) = .error cause := by
  rw [read, h]

/-- A name, or what stands where it should be. -/
theorem name_agrees (h : Stands octets before rest) (hspace : ∀ c ∈ rest.head?, ¬isSpace c) :
    Agrees ⟨.beforeName, tokens⟩ before rest (fun name => ⟨.afterName name, tokens⟩)
      (Cursor.name octets before.length) := by
  cases rest with
  | nil =>
    rw [Cursor.name, h.take_nil]
    exact .refused rfl
  | cons c rest =>
    have hlead : startsName (charOf (leadOctet c)) ↔ startsName c :=
      charOf_leadOctet_iff (p := (startsName ·)) fun _ => isAscii_of_startsName
    rw [Cursor.name, h.take_cons, ok_bind]
    by_cases hc : startsName c
    · obtain ⟨more, rest, rfl, hmore, hend, hskip⟩ :=
        exists_span (fun _ => isAscii_of_continuesName) (h.snoc (isAscii_of_startsName hc))
      -- The slice of the octets that the cursor takes is the name that the reader has gathered.
      have hname : IsName (c :: more) :=
        ⟨c, more, rfl, startsName_iff.mp hc, fun d hd => continuesName_iff.mp (hmore d hd)⟩
      have hascii : ∀ d ∈ c :: more, IsAscii d := List.forall_mem_cons.mpr
        ⟨isAscii_of_startsName hc, fun d hd => isAscii_of_continuesName (hmore d hd)⟩
      have hpasses : Passes ⟨.beforeName, tokens⟩ before (c :: more ++ rest)
          ⟨.afterName (c :: more), tokens⟩ (before ++ c :: more) rest :=
        .of_append hascii (read_name hname hend)
      rw [List.length_append, List.length_singleton, List.append_assoc] at hskip
      simp only [hlead.mpr hc, if_true, hskip, List.singleton_append]
      rw [(hpasses.stands h).slice, ok_bind]
      exact .ok hpasses
    · have hstep : step ⟨.beforeName, tokens⟩ before.length c =
          .error (.expected .parameterName (leadOctet c) before.length) :=
        (if_neg (hspace c rfl)).trans (if_neg hc)
      simp only [mt hlead.mp hc]
      exact .refused (read_error hstep)

/-- A kind, in as many rounds as there are characters left at most. -/
theorem kind_agrees {rounds : Nat} (h : Stands octets before rest) (hrounds : rest.length < rounds)
    (hspace : ∀ c ∈ rest.head?, ¬isSpace c) :
    Agrees ⟨.beforeKind name arrays, tokens⟩ before rest
      (fun decoder => ⟨.afterKind name arrays decoder, tokens⟩)
      (Cursor.kind octets rounds before.length) := by
  induction rounds generalizing arrays before rest with
  | zero => exact absurd hrounds (Nat.not_lt_zero _)
  | succ rounds ih =>
    obtain ⟨word, rest, rfl, hword, hend, hskip⟩ := exists_span (fun _ => isAscii_of_isAlpha) h
    have hascii : ∀ d ∈ word, IsAscii d := fun d hd => isAscii_of_isAlpha (hword d hd)
    have hbehind : Stands octets (before ++ word) rest :=
      ⟨fun d hd => (List.mem_append.mp hd).elim (h.ascii d) (hascii d),
        by rw [h.eq, List.append_assoc]⟩
    simp only [Cursor.kind, hskip]
    rw [hbehind.slice, ok_bind]
    by_cases hne : word = []
    -- Not one letter is there.
    · subst hne
      have hnone : decoder? [] = none := by decide
      rw [if_neg (by decide), hnone, List.append_nil]
      dsimp only [List.isEmpty_nil, List.nil_append]
      rw [if_pos rfl]
      cases rest with
      | nil =>
        rw [h.take_nil]
        exact .refused rfl
      | cons c rest =>
        rw [h.take_cons]
        have hstep : step ⟨.beforeKind name arrays, tokens⟩ before.length c =
            .error (.expected .parameterKind (leadOctet c) before.length) :=
          (if_neg (hspace c rfl)).trans (if_neg (hend c rfl))
        exact .refused (read_error hstep)
    · have hread : read ⟨.beforeKind name arrays, tokens⟩ before.length (word ++ rest) = _ :=
        (read_word hne hword).trans (read_kind_end hend)
      rw [List.reverse_reverse] at hread
      -- An array has a kind inside, which the hypothesis reads in one round less; any other word is
      -- a kind or is not.
      by_cases harray : word = "array".toList
      · rw [if_pos harray] at hread ⊢
        obtain ⟨before₁, rest₁, hskip₁, hpasses₁, hspace₁⟩ :=
          exists_passes_spaces (skips_afterArray name arrays) tokens hbehind
        have h₁ := hpasses₁.stands hbehind
        rw [hskip₁]
        refine .of_passes (.of_append hascii hread) (.of_passes hpasses₁ ?_)
        refine .consume_bind h₁ (by decide) rfl
          (fun c hc hne => (if_neg (hspace₁ c hc)).trans (if_neg hne)) rfl ?_
        rintro rest₂ rfl
        obtain ⟨before₃, rest₃, hskip₃, hpasses₃, hspace₃⟩ := exists_passes_spaces
          (skips_beforeKind name (arrays + 1)) tokens (h₁.snoc (by decide))
        have h₃ := hpasses₃.stands (h₁.snoc (by decide))
        have hlength : rest₃.length < rounds := by
          have hle := hpasses₁.length_le
          have := hpasses₃.length_le
          rw [List.length_cons] at hle
          rw [List.length_append] at hrounds
          omega
        rw [hskip₃]
        refine .of_passes hpasses₃ (.bind (ih h₃ hlength hspace₃) fun element before₄ rest₄ h₄ => ?_)
        obtain ⟨before₅, rest₅, hskip₅, hpasses₅, hspace₅⟩ := exists_passes_spaces
          (skips_afterKind name (arrays + 1) element) tokens (h₄.stands h₃)
        dsimp only
        rw [hskip₅]
        refine .of_passes hpasses₅ (.consume_bind (hpasses₅.stands (h₄.stands h₃)) (by decide) rfl
          (fun c hc hne => (if_neg (hspace₅ c hc)).trans (if_neg hne)) rfl ?_)
        exact fun _ _ => .ok (.refl _ _ _)
      · rw [if_neg harray] at hread ⊢
        cases hdecoder : decoder? word with
        | none =>
          rw [hdecoder] at hread
          dsimp only
          rw [if_neg (by simpa using hne)]
          exact .refused hread
        | some decoder =>
          rw [hdecoder] at hread
          exact .ok (.of_append hascii hread)

/-- The kind of a parameter and the brace behind it. -/
theorem decoder_agrees (h : Stands octets before rest) (hspace : ∀ c ∈ rest.head?, ¬isSpace c) :
    Agrees ⟨.afterName name, tokens⟩ before rest (fun p => ⟨.text [], .param p :: tokens⟩)
      (Cursor.decoder octets before.length >>= fun (decoder, position) =>
        consume octets '\x7d' position >>= fun position => .ok (⟨name, decoder⟩, position)) := by
  -- Without a colon the cursor stands where it looked for one, and the kind is a string.
  by_cases hcolon : rest.head? = some ':'
  · obtain ⟨rest, rfl⟩ := List.head?_eq_some_iff.mp hcolon
    have hopen : step ⟨.afterName name, tokens⟩ before.length ':' = .ok ⟨.beforeKind name 0, tokens⟩ :=
      rfl
    have hbehind : Stands octets (before ++ [':']) rest := h.snoc (by decide)
    obtain ⟨before₁, rest₁, hskip₁, hpasses₁, hspace₁⟩ :=
      exists_passes_spaces (skips_beforeKind name 0) tokens hbehind
    have h₁ := hpasses₁.stands hbehind
    -- The cursor reads nested kinds with the length of the octets as its fuel.
    have hlength : rest₁.length < octets.length + 1 := by
      have := length_le_length_encode (before₁ ++ rest₁)
      rw [← h₁.eq, List.length_append] at this
      omega
    rw [List.length_append, List.length_singleton] at hskip₁
    simp only [Cursor.decoder, h.consume_cons ':' (by decide), if_true, hskip₁]
    refine .of_passes (.of_step (by decide) hopen rest) (.of_passes hpasses₁ ?_)
    rw [bind_assoc]
    refine .bind (kind_agrees h₁ hlength hspace₁) fun decoder before₂ rest₂ h₂ => ?_
    obtain ⟨before₃, rest₃, hskip₃, hpasses₃, hspace₃⟩ :=
      exists_passes_spaces (skips_afterKind name 0 decoder) tokens (h₂.stands h₁)
    dsimp only
    rw [hskip₃]
    exact .of_passes hpasses₃ (.consume_bind (hpasses₃.stands (h₂.stands h₁)) (by decide) rfl
      (fun c hc hne => (if_neg (hspace₃ c hc)).trans (if_neg hne)) rfl fun _ _ => .ok (.refl _ _ _))
  · have hbare : Cursor.decoder octets before.length = .ok (.string, before.length) := by
      rw [Cursor.decoder]
      cases rest with
      | nil => rw [h.consume_nil]
      | cons c rest => rw [h.consume_cons ':' (by decide), if_neg (fun hc => hcolon (congrArg some hc))]
    rw [hbare, ok_bind]
    refine .consume_bind h (by decide) rfl (fun c hc hne => ?_) rfl fun _ _ => .ok (.refl _ _ _)
    have hne' : c ≠ ':' := fun heq => hcolon (heq ▸ hc)
    exact (if_neg (hspace c hc)).trans ((if_neg hne').trans (if_neg hne))

/-- All of a parameter behind its opening brace. -/
theorem param_agrees (tokens : List Token) (h : Stands octets before rest) :
    Agrees ⟨.beforeName, tokens⟩ before rest (fun p => ⟨.text [], .param p :: tokens⟩)
      (Cursor.param octets before.length) := by
  obtain ⟨before₁, rest₁, hskip₁, hpasses₁, hspace₁⟩ :=
    exists_passes_spaces skips_beforeName tokens h
  have h₁ := hpasses₁.stands h
  rw [Cursor.param, hskip₁]
  refine .of_passes hpasses₁ (.bind (name_agrees h₁ hspace₁) fun name before₂ rest₂ h₂ => ?_)
  obtain ⟨before₃, rest₃, hskip₃, hpasses₃, hspace₃⟩ :=
    exists_passes_spaces (skips_afterName name) tokens (h₂.stands h₁)
  dsimp only
  rw [hskip₃]
  exact .of_passes hpasses₃ (decoder_agrees (hpasses₃.stands (h₂.stands h₁)) hspace₃)

/-- A hexadecimal digit is passed, or it is refused. -/
theorem hexDigit_cases (st : State) (st' : Char → State) (h : Stands octets before rest)
    (hstep : ∀ c, step st before.length c = if (Text.hexValue? c).isSome then .ok (st' c)
      else .error (.expected .hexDigit (leadOctet c) before.length))
    (hend : finish st before.length = .error (.endOfStream before.length)) :
    (∃ cause, hexDigit octets before.length = .error (.refused cause) ∧
      read st before.length rest = .error cause) ∨
    ∃ c rest', rest = c :: rest' ∧ IsAscii c ∧
      hexDigit octets before.length = .ok (before ++ [c]).length ∧
      step st before.length c = .ok (st' c) := by
  cases rest with
  | nil => exact .inl ⟨_, by rw [hexDigit, h.take_nil, error_bind], hend⟩
  | cons c rest =>
    have hlead : (Text.hexValue? (charOf (leadOctet c))).isSome ↔ (Text.hexValue? c).isSome :=
      charOf_leadOctet_iff (p := fun c => (Text.hexValue? c).isSome) fun _ => isAscii_of_hexValue?
    rw [hexDigit, h.take_cons, ok_bind]
    dsimp only
    by_cases hc : (Text.hexValue? c).isSome
    · refine .inr ⟨c, rest, rfl, isAscii_of_hexValue? hc, ?_, (hstep c).trans (if_pos hc)⟩
      rw [if_pos (hlead.mpr hc), List.length_append, List.length_singleton]
    · refine .inl ⟨_, if_neg (mt hlead.mp hc), read_error ((hstep c).trans (if_neg hc))⟩

/-- A character of a path is passed and belongs to the literal, or it is refused. -/
theorem pathChar_cases {text : Text} (h : Stands octets before (c :: rest)) (hopen : c ≠ '\x7b') :
    (∃ cause, pathChar octets before.length = .error (.refused cause) ∧
      read ⟨.text text, tokens⟩ before.length (c :: rest) = .error cause) ∨
    ∃ more rest', pathChar octets before.length = .ok (before ++ c :: more).length ∧
      rest = more ++ rest' ∧ Passes ⟨.text text, tokens⟩ before (c :: rest)
        ⟨.text ((c :: more).reverse ++ text), tokens⟩ (before ++ c :: more) rest' := by
  have hpercent : charOf (leadOctet c) = '%' ↔ c = '%' :=
    charOf_leadOctet_iff (p := (· = '%')) fun _ h => h ▸ (by decide)
  have hlead : isLiteral (charOf (leadOctet c)) ↔ isLiteral c :=
    charOf_leadOctet_iff (p := (isLiteral ·)) fun _ => isAscii_of_isLiteral
  rw [pathChar, h.take_cons, ok_bind]
  -- The cursor asks for the percent sign first, as the reader does behind the opening brace.
  by_cases hc : c = '%'
  · subst hc
    have hstep : step ⟨.text text, tokens⟩ before.length '%' = .ok ⟨.octet ('%' :: text), tokens⟩ :=
      rfl
    have hbehind : Stands octets (before ++ ['%']) rest := h.snoc (by decide)
    have hpasses : Passes ⟨.text text, tokens⟩ before ('%' :: rest) ⟨.octet ('%' :: text), tokens⟩
        (before ++ ['%']) rest := .of_step (by decide) hstep rest
    dsimp only
    rw [if_pos (hpercent.mpr rfl), ← List.length_singleton (a := '%'), ← List.length_append]
    -- Both digits may be refused, and each at its own place.
    rcases hexDigit_cases ⟨.octet ('%' :: text), tokens⟩
      (fun a => ⟨.octetDigit (a :: '%' :: text), tokens⟩) hbehind (fun _ => rfl) rfl with
      ⟨cause, hfirst, hread⟩ | ⟨a, rest, rfl, ha, hfirst, hstep₁⟩
    · exact .inl ⟨cause, by rw [hfirst, error_bind], hpasses.read_eq.trans hread⟩
    · have hpasses := hpasses.trans (.of_step ha hstep₁ rest)
      rw [hfirst, ok_bind]
      rcases hexDigit_cases ⟨.octetDigit (a :: '%' :: text), tokens⟩
        (fun b => ⟨.text (b :: a :: '%' :: text), tokens⟩) (hbehind.snoc ha)
        (fun _ => rfl) rfl with
        ⟨cause, hsecond, hread⟩ | ⟨b, rest, rfl, hb, hsecond, hstep₂⟩
      · exact .inl ⟨cause, hsecond, hpasses.read_eq.trans hread⟩
      · have hpasses := hpasses.trans (.of_step hb hstep₂ rest)
        simp only [List.append_assoc, List.cons_append, List.nil_append] at hsecond hpasses ⊢
        exact .inr ⟨[a, b], rest, hsecond, rfl, hpasses⟩
  · dsimp only
    rw [if_neg (mt hpercent.mp hc)]
    by_cases hliteral : isLiteral c
    · refine .inr ⟨[], rest, ?_, rfl, .of_step (isAscii_of_isLiteral hliteral) ?_ rest⟩
      · rw [if_pos (hlead.mpr hliteral), List.length_append, List.length_singleton]
      · exact (if_neg hopen).trans ((if_neg hc).trans (if_pos hliteral))
    · refine .inl ⟨_, if_neg (mt hlead.mp hliteral), read_error ?_⟩
      exact (if_neg hopen).trans ((if_neg hc).trans (if_neg hliteral))

end Parts

/-- The literal between the anchor and the cursor is what was read of it. -/
theorem flush_eq {start text : Text} {tokens : List Token}
    (h : Stands octets (start ++ text.reverse) rest) :
    flush octets start.length (start ++ text.reverse).length tokens =
      .ok (literalTokens text ++ tokens) := by
  rw [flush, h.slice, ok_bind, literalTokens]
  cases text with
  | nil => rfl
  | cons c text => simp

/-- **Reading on with the cursor comes to the same.**  The anchor stands before the literal that
was read last. -/
theorem loop_eq {rounds : Nat} {start text : Text} (tokens : List Token)
    (h : Stands octets (start ++ text.reverse) rest) (hrounds : rest.length < rounds) :
    loop octets rounds start.length (start ++ text.reverse).length tokens =
      (read ⟨.text text, tokens⟩ (start ++ text.reverse).length rest).mapError .refused := by
  induction rounds generalizing start text rest tokens with
  | zero => exact absurd hrounds (Nat.not_lt_zero _)
  | succ rounds ih =>
    cases rest with
    | nil =>
      rw [loop, h.getElem?]
      dsimp only [List.head?_nil, Option.map_none]
      rw [flush_eq h]
      rfl
    | cons c rest =>
      -- A brace begins a parameter, which leaves the anchor behind it; all else goes on with the
      -- literal.
      have hopen : charOf (leadOctet c) = '\x7b' ↔ c = '\x7b' :=
        charOf_leadOctet_iff (p := (· = '\x7b')) fun _ h => h ▸ (by decide)
      rw [List.length_cons] at hrounds
      rw [loop, h.getElem?]
      dsimp only [List.head?_cons, Option.map_some]
      by_cases hc : c = '\x7b'
      · subst hc
        have hbehind := h.snoc (by decide)
        rw [if_pos (hopen.mpr rfl), flush_eq h, ok_bind, read_open,
          ← List.length_singleton (a := '\x7b'), ← List.length_append]
        have hparam := param_agrees (literalTokens text ++ tokens) hbehind
        generalize param octets (start ++ text.reverse ++ ['\x7b']).length = result at hparam ⊢
        cases hparam with
        | @ok p before' rest' hpasses =>
          have hnothing : before' ++ ([] : Text).reverse = before' := by simp
          have hstands := hpasses.stands hbehind
          have hle := hpasses.length_le
          rw [← hnothing] at hstands
          have hloop := ih (.param p :: (literalTokens text ++ tokens)) hstands (by omega)
          rw [hnothing] at hloop
          rw [ok_bind, hpasses.read_eq]
          exact hloop
        | refused hread =>
          rw [hread]
          rfl
      · rw [if_neg (mt hopen.mp hc)]
        rcases pathChar_cases h hc with ⟨cause, hpath, hread⟩ | ⟨more, rest, hpath, rfl, hpasses⟩
        · rw [hpath, hread]
          rfl
        · have hmove : start ++ text.reverse ++ c :: more =
              start ++ ((c :: more).reverse ++ text).reverse := by simp
          rw [hmove] at hpath hpasses
          rw [hpath, ok_bind, hpasses.read_eq]
          rw [List.length_append] at hrounds
          exact ih tokens (hpasses.stands h) (by omega)

end Simulation

/-- **Reading a template with the cursor comes to the same as reading its characters.**  A template
is ASCII, and any other character is refused at the first of its octets. -/
theorem parse_encode (s : Text) :
    Cursor.parse (Utf8.encode s) = (Template.parse s).mapError .refused := by
  have hstands : Stands (Utf8.encode s) ([] ++ ([] : Text).reverse) s := ⟨by simp, rfl⟩
  exact loop_eq [] hstands (Nat.lt_succ_of_le (length_le_length_encode s))

end Cursor

/-- **A template is accepted if and only if it is derived from the grammar**, and then with the
tokens of the derivation whose literals are as long as they can be, of which there is one.
Whichever derivation is taken, its tokens are these when neighbouring literals are joined.

Reading the octets with a cursor gives these tokens, or the failure of this text: it never comes
to a slice that is out of range, to a place before the first octet, or to no end. -/
theorem parse_grammar (s : Text) :
    (∀ tokens, parse s = .ok tokens ↔ Derives s tokens ∧ Token.IsJoined tokens) ∧
      (∀ pieces, Derives s pieces → parse s = .ok (Token.join pieces)) ∧
      Cursor.parse (Utf8.encode s) = (parse s).mapError .refused :=
  ⟨fun _ => parse_eq_ok_iff, fun _ => parse_of_derives, Cursor.parse_encode s⟩

end Template
end Routing
