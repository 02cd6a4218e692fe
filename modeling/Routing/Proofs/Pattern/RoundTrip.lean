/-
# Encoding what was decoded

A plain pattern encodes the data that it decodes, to a path that it splits in the same way, with
the same values (`IsPlain.exists_encoded`).  So decoding the encoded URL gives the data back,
provided that the path is read as it is written.  It is, unless it has a dot segment
(`IsPlain.decode_encode_iff`), and it can have one only if the path of the URL had one: which
takes the URL of a file with a line break in it.

Conversely, a path that decodes is read as it is written (`IsPlain.isCanonical_of_decode`): every
dot segment, and a host between two slashes, would take slashes away that the literals have.

The proof goes parameter by parameter.  The text that the path has for a parameter is decoded to a
value, and the value is encoded to another text; the two need not be equal, but the second is a
text as a parameter takes it, and it stands for points only where the first did (`IsRenewal`).
Filled into the same tokens, the new texts make up a path that splits into them again, since
parameters are separated.
-/

import Routing.Proofs.Pattern.Plain
import Routing.Proofs.Pattern.Points
import Routing.Proofs.Url.Characters
import Routing.Proofs.Url.Component
import Routing.Proofs.Url.Resolved
import Routing.Proofs.Url.Written

namespace Routing
namespace Pattern

variable {p : Pattern}

/-! ### What is encoded -/

/-- The text of a parameter in a path, in the form in which it is encoded. -/
abbrev encodeText (s : Text) : Text := Percent.encode Percent.component s

/-- An encoded text has no slash. -/
theorem slash_not_mem_encodeText (s : Text) : '/' ∉ encodeText s := by
  intro h
  have hinert := (Percent.isComponent_encode s).isInert '/' h
  exact hinert.1 (by decide)

/-- A character of a path that is no backslash. -/
def IsPathChar (c : Char) : Prop := Percent.path c ∧ c ≠ '\\'

instance (c : Char) : Decidable (IsPathChar c) := inferInstanceAs (Decidable (_ ∧ _))

/-- Complete escapes are written in characters that a path keeps. -/
theorem isPathChar_of_escaped {kept : Percent.Kept}
    (hkept : ∀ c, kept c → c.toNat < 128 ∧ IsPathChar c) {s : Text}
    (h : Percent.Escaped kept s) : ∀ c ∈ s, IsPathChar c := by
  refine h.forall_mem (fun c hc => (hkept c hc).2) (by decide) fun c hc => ?_
  exact Percent.of_ascii (P := fun c => (Text.hexValue? c).isSome → IsPathChar c) (by decide)
    (Percent.lt_of_hexValue?_isSome hc) hc

/-- The characters that a component keeps are kept by a path as well. -/
theorem isPathChar_of_component {c : Char} (h : Percent.component c) :
    c.toNat < 128 ∧ IsPathChar c := by
  have hlt : c.toNat < 128 := Percent.lt_of_isAlphanumeric_or (by decide) h
  exact ⟨hlt, Percent.of_ascii (P := fun c => Percent.component c → IsPathChar c) (by decide)
    hlt h⟩

/-- An encoded text is written in characters that a path keeps. -/
theorem isPathChar_encodeText (s : Text) : ∀ c ∈ encodeText s, IsPathChar c :=
  isPathChar_of_escaped (fun _ => isPathChar_of_component) (Percent.escaped_encode (by decide) s)

/-- The characters of literals are kept by a path. -/
theorem isPathChar_of_isLiteral {c : Char} (h : Template.isLiteral c) :
    c.toNat < 128 ∧ IsPathChar c := by
  have hlt : c.toNat < 128 := Percent.lt_of_isAlphanumeric_or (by decide) h
  exact ⟨hlt, Percent.of_ascii (P := fun c => Template.isLiteral c → IsPathChar c)
    (by decide +kernel) hlt h⟩

/-- Putting the parts of tokens together fills in a text for each parameter. -/
theorem exists_parts_iff {d : Dictionary Value} {tokens : List Token} {path : Text} :
    (∃ parts, List.Forall₂ (fun token part => encodeToken d token = .ok part) tokens parts ∧
        path = parts.flatten) ↔
      ∃ texts, List.Forall₂ (fun param r => encodeToken d (.param param) = .ok r)
        (Token.params tokens) texts ∧ path = Token.fill tokens texts := by
  -- A literal is a part of its own and has no text, so the two lists differ in length.
  induction tokens generalizing path with
  | nil => simp [Token.params, Token.fill]
  | cons token tokens ih =>
    cases token with
    | literal s =>
      constructor
      · rintro ⟨parts, hparts, rfl⟩
        obtain ⟨part, parts, hpart, hrest, rfl⟩ := List.forall₂_cons_left_iff.mp hparts
        obtain rfl := Except.ok.inj hpart
        obtain ⟨texts, htexts, heq⟩ := ih.mp ⟨parts, hrest, rfl⟩
        exact ⟨texts, htexts, by rw [Token.fill, ← heq, List.flatten_cons]⟩
      · rintro ⟨texts, htexts, rfl⟩
        obtain ⟨parts, hparts, heq⟩ := ih.mpr ⟨texts, htexts, rfl⟩
        exact ⟨s :: parts, .cons rfl hparts, by rw [Token.fill, heq, List.flatten_cons]⟩
    | param q =>
      have hparams : Token.params (.param q :: tokens) = q :: Token.params tokens := rfl
      rw [hparams]
      constructor
      · rintro ⟨parts, hparts, rfl⟩
        obtain ⟨part, parts, hpart, hrest, rfl⟩ := List.forall₂_cons_left_iff.mp hparts
        obtain ⟨texts, htexts, heq⟩ := ih.mp ⟨parts, hrest, rfl⟩
        exact ⟨part :: texts, .cons hpart htexts, by rw [Token.fill, ← heq, List.flatten_cons]⟩
      · rintro ⟨texts, htexts, rfl⟩
        obtain ⟨r, texts, hr, hrest, rfl⟩ := List.forall₂_cons_left_iff.mp htexts
        obtain ⟨parts, hparts, heq⟩ := ih.mpr ⟨texts, hrest, rfl⟩
        exact ⟨r :: parts, .cons hr hparts, by rw [Token.fill, heq, List.flatten_cons]⟩

/-- A path is encoded by filling in a text for each parameter. -/
theorem encodePath_eq_ok_iff {d : Dictionary Value} {path : Text} :
    p.encodePath d = .ok path ↔
      ∃ texts, List.Forall₂ (fun param r => encodeToken d (.param param) = .ok r)
        p.params texts ∧ path = Token.fill p.tokens texts := by
  rw [params, ← exists_parts_iff, encodePath]
  cases hparts : p.tokens.mapM (encodeToken d) with
  | error e =>
    refine iff_of_false (by rintro ⟨⟩) ?_
    rintro ⟨parts, hparts', -⟩
    rw [mapM_eq_ok_iff.mpr hparts'] at hparts
    cases hparts
  | ok parts =>
    constructor
    · intro h
      exact ⟨parts, mapM_eq_ok_iff.mp hparts, (Except.ok.inj h).symm⟩
    · rintro ⟨parts', hparts', rfl⟩
      rw [mapM_eq_ok_iff.mpr hparts'] at hparts
      rw [Except.ok.inj hparts]
      rfl

/-- Texts with the same encoding are equal. -/
theorem encodeText_injective : Function.Injective encodeText :=
  Percent.encode_injective (by decide)

/-- An encoded text is read as the text is. -/
theorem decodesTo_encodeText_iff {param : Param} {s : Text} {w : Value} :
    param.DecodesTo (encodeText s) w ↔ param.decoder.decode s = .ok w := by
  constructor
  · rintro ⟨t, ht, hw⟩
    rw [Percent.decode?_encode (by decide)] at ht
    exact Option.some.inj ht ▸ hw
  · exact fun hw => ⟨s, Percent.decode?_encode (by decide) s, hw⟩

/-- The text of a parameter is that of the value that is given for it. -/
theorem encodeToken_eq_ok_iff {d : Dictionary Value} {param : Param} {r : Text} :
    encodeToken d (.param param) = .ok r ↔
      ∃ v s, d.get? param.name = some v ∧ param.decoder.encode v = .ok s ∧ r = encodeText s := by
  rw [encodeToken]
  cases d.get? param.name with
  | none => exact iff_of_false (by rintro ⟨⟩) (by rintro ⟨_, _, ⟨⟩, _⟩)
  | some v =>
    dsimp only
    cases hs : param.decoder.encode v with
    | error e =>
      refine iff_of_false (by rintro ⟨⟩) ?_
      rintro ⟨_, _, ⟨⟩, hs', -⟩
      rw [hs] at hs'
      cases hs'
    | ok s =>
      constructor
      · exact fun h => ⟨v, s, rfl, hs, (Except.ok.inj h).symm⟩
      · rintro ⟨_, _, ⟨⟩, hs', rfl⟩
        rw [hs] at hs'
        rw [Except.ok.inj hs']
        rfl

/-- What is encoded for parameters are encoded texts. -/
theorem exists_of_encodes {d : Dictionary Value} {params : List Param} {texts : List Text}
    (h : List.Forall₂ (fun param r => encodeToken d (.param param) = .ok r) params texts) :
    ∀ r ∈ texts, ∃ s, r = encodeText s := fun r hr => by
  obtain ⟨param, -, hparam⟩ := exists_of_mem_right h hr
  obtain ⟨-, s, -, -, heq⟩ := encodeToken_eq_ok_iff.mp hparam
  exact ⟨s, heq⟩

/-- A value that is encoded has no slash. -/
theorem slash_not_mem_of_encodes {d : Dictionary Value} {params : List Param} {texts : List Text}
    (h : List.Forall₂ (fun param r => encodeToken d (.param param) = .ok r) params texts) :
    ∀ r ∈ texts, '/' ∉ r := fun r hr => by
  obtain ⟨s, rfl⟩ := exists_of_encodes h r hr
  exact slash_not_mem_encodeText s

/-! ### Paths that are decoded -/

/-- **A path that decodes is read as it is written.**  Its literals stand in the path that was
read, so they have no character that reading changes; and a host or a dot segment would take a
slash away that a literal has. -/
theorem HasDefaultMatchers.isCanonical_of_decode (h : p.HasDefaultMatchers)
    (hjoined : Token.IsJoined p.tokens)
    (hrooted : ∃ s rest, p.tokens = .literal ('/' :: s) :: rest) {data data' : RouteData}
    {path : Text} (hpath : p.encodePath data.params = .ok path)
    (hdecode : p.decode (withPath data path) = some data') : Address.IsCanonical path := by
  obtain ⟨texts, htexts, rfl⟩ := encodePath_eq_ok_iff.mp hpath
  have hencoded := exists_of_encodes htexts
  have hslash := slash_not_mem_of_encodes htexts
  have hhead : (Token.fill p.tokens texts).head? = some '/' := by
    obtain ⟨s, rest, heq⟩ := hrooted
    rw [heq]
    rfl
  cases hread : Address.read? (withPath data (Token.fill p.tokens texts)) with
  | none =>
    rw [decode, tryDecode, hread] at hdecode
    cases hdecode
  | some address =>
    obtain ⟨texts', _, hgreatest, -⟩ := (h.decode_eq_some_iff hread).mp hdecode
    -- What was read splits into the same tokens, so it has the slashes of the literals and ends as
    -- they do.
    have hsplits := hgreatest.splits
    have hkept := Address.kept_of_read? (by rw [withPath, Address.render_eq,
      List.head?_append, hhead, Option.some_or]) hread
    have hwritten : Address.IsWritten (Token.fill p.tokens texts) := by
      refine ⟨hhead, Token.forall_mem_fill (fun s hs c hc => ?_) fun r hr => ?_⟩
      · exact hkept c (hsplits.mem_of_literal hs c hc)
      · obtain ⟨s, rfl⟩ := hencoded r hr
        exact isPathChar_encodeText s
    rcases Address.isCanonical_or_of_read?
        (a := ⟨Token.fill p.tokens texts, data.search, data.hash⟩) hwritten hread with
      hcanonical | hlt | ⟨hlast, hnot⟩
    · exact hcanonical
    · -- The path that is read has the slashes of the literals, as the written one has.
      rw [hsplits.eq_fill, Token.count_slash_fill _ fun r hr => (hsplits.isText r hr).2,
        Token.count_slash_fill _ hslash] at hlt
      exact absurd hlt (Nat.lt_irrefl _)
    · exact absurd (hsplits.getLast?_fill hjoined hlast texts) hnot

namespace IsRegular

/-- What is encoded begins with a slash, and consists of characters that a path keeps. -/
theorem isWritten_fill (h : p.IsRegular) {texts : List Text}
    (htexts : ∀ r ∈ texts, ∃ s, r = encodeText s) :
    Address.IsWritten (Token.fill p.tokens texts) := by
  refine ⟨?_, Token.forall_mem_fill (P := IsPathChar) (fun s hs => ?_) (fun r hr => ?_)⟩
  · obtain ⟨s, rest, heq⟩ := h.exists_cons
    rw [heq]
    rfl
  · exact isPathChar_of_escaped (fun c => isPathChar_of_isLiteral) (h.isEscaped s hs)
  · obtain ⟨s, rfl⟩ := htexts r hr
    exact isPathChar_encodeText s

/-- The first slash stands alone. -/
theorem head?_tail_fill (h : p.IsRegular) {texts : List Text}
    (hlength : texts.length = p.params.length) (htexts : ∀ r ∈ texts, Token.IsText r) :
    (Token.fill p.tokens texts).tail.head? ≠ some '/' := by
  obtain ⟨s, rest, heq⟩ := h.exists_cons
  have hjoined := h.isJoined
  have hsingle := h.single
  rw [params] at hlength
  rw [heq] at hjoined hsingle hlength ⊢
  rw [Token.fill, List.cons_append, List.tail_cons]
  -- Behind the slash stands the rest of the literal, or else the text of a parameter.
  cases s with
  | cons c s =>
    intro hc
    obtain rfl : c = '/' := by simpa using hc
    exact hsingle s rest rfl
  | nil =>
    cases rest with
    | nil => simp [Token.fill]
    | cons token rest =>
      cases token with
      | literal t => exact absurd rfl (hjoined.2.1 t)
      | param q =>
        obtain ⟨r, texts, rfl⟩ := List.exists_cons_of_length_eq_add_one hlength
        obtain ⟨hne, hslash⟩ := htexts r List.mem_cons_self
        obtain ⟨c, r, rfl⟩ := List.exists_cons_of_ne_nil hne
        intro hc
        obtain rfl : c = '/' := by simpa [Token.fill] using hc
        exact hslash List.mem_cons_self

end IsRegular

namespace IsPlain

/-- What a plain pattern encodes is written as a path. -/
theorem isWritten_fill (h : p.IsPlain) {texts : List Text}
    (htexts : ∀ r ∈ texts, ∃ s, r = encodeText s) :
    Address.IsWritten (Token.fill p.tokens texts) :=
  h.isRegular.isWritten_fill htexts

/-- What a plain pattern encodes begins with one slash alone. -/
theorem head?_tail_fill (h : p.IsPlain) {texts : List Text}
    (hlength : texts.length = p.params.length) (htexts : ∀ r ∈ texts, Token.IsText r) :
    (Token.fill p.tokens texts).tail.head? ≠ some '/' :=
  h.isRegular.head?_tail_fill hlength htexts

/-- **A path that decodes is read as it is written.** -/
theorem isCanonical_of_decode (h : p.IsPlain) {data data' : RouteData} {path : Text}
    (hpath : p.encodePath data.params = .ok path)
    (hdecode : p.decode (withPath data path) = some data') : Address.IsCanonical path :=
  h.hasDefaultMatchers.isCanonical_of_decode h.isJoined h.exists_cons hpath hdecode

end IsPlain

/-! ### Texts that are written anew -/

/-- Texts for parameters, written anew for the values that other texts were read as. -/
structure IsRenewal (d : Dictionary Value) (params : List Param) (texts : List Text)
    (values : List Value) (texts' : List Text) : Prop where
  /-- There is one text for each parameter. -/
  length_eq : texts'.length = params.length
  /-- The texts are not empty and have no slash. -/
  isText : ∀ r ∈ texts', Token.IsText r
  /-- They stand for points only where the first texts did. -/
  renews : List.Forall₂ Token.Renews texts texts'
  /-- They are read as the same values. -/
  decodes : List.Forall₂ (fun pair value => pair.1.DecodesTo pair.2 value) (params.zip texts')
    values
  /-- They are what the values are encoded to. -/
  encodes : List.Forall₂ (fun param r => encodeToken d (.param param) = .ok r) params texts'

/-- A text that was read is written anew as it was read, or not with points alone. -/
theorem isText_and_renews {r s t : Text} (hr : Token.IsText r) (ht : Percent.decode? r = some t)
    (hsame : s = t ∨ Decoder.HasNonPoint s) :
    Token.IsText (encodeText s) ∧ Token.Renews r (encodeText s) := by
  have hs : Percent.decode? (encodeText s) = some s := Percent.decode?_encode (by decide) s
  refine ⟨⟨fun hnil => ?_, slash_not_mem_encodeText s⟩, hr.2, slash_not_mem_encodeText s,
    Percent.escaped_encode (by decide) s, fun n hn => ?_⟩
  · obtain rfl := Percent.encode_eq_nil hnil
    rcases hsame with rfl | ⟨c, hc, -⟩
    · exact hr.1 ((Percent.eq_nil_iff ht).mp rfl)
    · simp at hc
  · have hpoints := (Percent.eq_replicate_iff hs).mpr hn
    rcases hsame with rfl | ⟨c, hc, hne⟩
    · exact (Percent.eq_replicate_iff ht).mp hpoints
    · rw [hpoints] at hc
      exact absurd (List.eq_of_mem_replicate hc) hne

/-- A text is written anew for the value that it was read as. -/
theorem exists_renewed_text {param : Param} {r : Text} {value : Value}
    (hdecoder : param.decoder.IsPlain) (hr : Token.IsText r) (h : param.DecodesTo r value) :
    ∃ s, param.decoder.encode value = .ok s ∧ param.DecodesTo (encodeText s) value ∧
      Token.IsText (encodeText s) ∧ Token.Renews r (encodeText s) := by
  obtain ⟨t, ht, hvalue⟩ := h
  obtain ⟨s, hencode, hdecode, hsame⟩ := Decoder.exists_encode_of_decode hdecoder hvalue
  exact ⟨s, hencode, decodesTo_encodeText_iff.mpr hdecode, isText_and_renews hr ht hsame⟩

/-- Texts are written anew for the values that they were read as. -/
theorem exists_renewal {d : Dictionary Value} {params : List Param} {texts : List Text}
    {values : List Value} (hlength : texts.length = params.length)
    (hdecoders : ∀ param ∈ params, param.decoder.IsPlain) (htexts : ∀ r ∈ texts, Token.IsText r)
    (hvalues : List.Forall₂ (fun pair value => pair.1.DecodesTo pair.2 value) (params.zip texts)
      values)
    (hget : ∀ pair ∈ params.zip values, d.get? pair.1.name = some pair.2) :
    ∃ texts', IsRenewal d params texts values texts' := by
  induction params generalizing texts values with
  | nil =>
    obtain rfl := List.eq_nil_of_length_eq_zero hlength
    exact ⟨[], rfl, by simp, .nil, hvalues, .nil⟩
  | cons param params ih =>
    obtain ⟨r, texts, rfl⟩ := List.exists_cons_of_length_eq_add_one hlength
    obtain ⟨hdecoder, hdecoders⟩ := List.forall_mem_cons.mp hdecoders
    obtain ⟨hr, htexts⟩ := List.forall_mem_cons.mp htexts
    obtain ⟨value, values, hvalue, hrest, rfl⟩ := List.forall₂_cons_left_iff.mp hvalues
    obtain ⟨hget, hgets⟩ := List.forall_mem_cons.mp hget
    obtain ⟨texts', hrenewal⟩ := ih (Nat.succ.inj hlength) hdecoders htexts hrest hgets
    obtain ⟨s, hencode, hdecode, htext, hrenews⟩ := exists_renewed_text hdecoder hr hvalue
    -- The text may be another one, but it stands for the same value and is one of a path.
    refine ⟨encodeText s :: texts', congrArg (· + 1) hrenewal.length_eq,
      List.forall_mem_cons.mpr ⟨htext, hrenewal.isText⟩, .cons hrenews hrenewal.renews,
      .cons hdecode hrenewal.decodes, .cons ?_ hrenewal.encodes⟩
    dsimp only at hget
    rw [encodeToken, hget]
    dsimp only
    rw [hencode]
    rfl

/-- A path that data is encoded to, with a text written anew for every one of the path of an
address. -/
structure IsWrittenAnew (p : Pattern) (address : Address) (d : Dictionary Value) (path : Text) :
    Prop where
  /-- The path of the address begins with a slash. -/
  rooted : address.path.head? = some '/'
  /-- The data is encoded to the path. -/
  encodePath : p.encodePath d = .ok path
  /-- The characters of the path are read as they are. -/
  isWritten : Address.IsWritten path
  /-- The path does not begin with two slashes. -/
  single : path.tail.head? ≠ some '/'
  /-- The path has no dot segments if the address had none. -/
  noDots : (∀ s ∈ Address.pieces address.path, Segments.isDot s = false) →
    ∀ s ∈ Address.pieces path, Segments.isDot s = false

/-- Texts that are written anew for those of a path make up a path with no more dot segments than
that one. -/
theorem IsRegular.isWrittenAnew (h : p.IsRegular) {address : Address} {d : Dictionary Value}
    {texts texts' : List Text} (hsplits : Token.Splits p.tokens address.path texts)
    (htexts : ∀ r ∈ texts', Token.IsText r) (hrenews : List.Forall₂ Token.Renews texts texts')
    (hencodes : List.Forall₂ (fun param r => encodeToken d (.param param) = .ok r) p.params
      texts') : p.IsWrittenAnew address d (Token.fill p.tokens texts') := by
  obtain ⟨s, rest, heq⟩ := h.exists_cons
  refine ⟨?_, encodePath_eq_ok_iff.mpr ⟨texts', hencodes, rfl⟩,
    h.isWritten_fill (exists_of_encodes hencodes),
    h.head?_tail_fill hencodes.length_eq.symm htexts, fun hdots => ?_⟩
  · rw [hsplits.eq_fill, heq]
    rfl
  · have hseparated := h.separated
    have hescaped := h.isEscaped
    rw [hsplits.eq_fill] at hdots
    rw [heq] at hdots hseparated hescaped ⊢
    exact Token.noDots_fill hseparated hescaped hrenews hdots

/-! ### Back to the data -/

/-- What a pattern makes of the data that it decoded from an address. -/
structure Reencodes (p : Pattern) (address : Address) (data : RouteData) (path : Text) : Prop
    extends IsWrittenAnew p address data.params path where
  /-- The data is decoded again if the path is read as it is. -/
  decode : Address.IsCanonical path → p.decode (withPath data path) = some data

/-- **Data that was decoded is encoded, and decoded again if the path is read as it is.** -/
theorem IsPlain.exists_encoded (h : p.IsPlain) {url : Text} {address : Address} {data : RouteData}
    (hurl : Address.read? url = some address) (hdecode : p.decode url = some data) :
    ∃ path, p.Reencodes address data path := by
  obtain ⟨texts, values, hgreatest, hvalues, rfl⟩ :=
    (h.hasDefaultMatchers.decode_eq_some_iff hurl).mp hdecode
  have hsplits := hgreatest.splits
  have hlength : texts.length = p.params.length := hsplits.length_eq
  have hlength' : values.length = p.params.length := by
    rw [← hvalues.length_eq, List.length_zip, hlength, Nat.min_self]
  obtain ⟨texts', hrenewal⟩ := exists_renewal hlength h.decoders hsplits.isText hvalues
    fun pair hpair => get?_named h.nodup_names hlength' hpair
  have hsplits' := Token.splits_fill hrenewal.length_eq hrenewal.isText
  have hanew := h.isRegular.isWrittenAnew hsplits hrenewal.isText hrenewal.renews hrenewal.encodes
  refine ⟨Token.fill p.tokens texts', hanew, fun hcanonical => ?_⟩
  have hread := Address.read?_render
    (a := ⟨Token.fill p.tokens texts', address.search, address.hash⟩) hcanonical
  exact (h.hasDefaultMatchers.decode_eq_some_iff hread).mpr
    ⟨texts', values, h.separated.isGreatestSplit hsplits', hrenewal.decodes, rfl⟩

/-- **Decoding what was encoded gives the data back unless the path has a dot segment.**  It has
none unless the URL is the one of a file with a line break in it. -/
theorem IsPlain.decode_encode_iff (h : p.IsPlain) {url : Text} {data : RouteData}
    (hdecode : p.decode url = some data) :
    ∃ path, p.encodePath data.params = .ok path ∧ p.encode data = .ok (withPath data path) ∧
      (p.decode (withPath data path) = some data ↔
        ∀ s ∈ Address.pieces path, Segments.isDot s = false) ∧
      (¬Reference.IsFile url ∨ Reference.NoBreaks url →
        p.decode (withPath data path) = some data) := by
  cases hurl : Address.read? url with
  | none =>
    rw [decode, tryDecode, hurl] at hdecode
    cases hdecode
  | some address =>
    obtain ⟨path, hpath⟩ := h.exists_encoded hurl hdecode
    have hagain (hdots : ∀ s ∈ Address.pieces path, Segments.isDot s = false) :
        p.decode (withPath data path) = some data :=
      hpath.decode ⟨hpath.isWritten, hpath.single, hdots⟩
    refine ⟨path, hpath.encodePath, ?_, ⟨fun heq => ?_, hagain⟩, fun hurl' => ?_⟩
    · rw [encode, hpath.encodePath]
      rfl
    · exact (h.isCanonical_of_decode hpath.encodePath heq).noDots
    · exact hagain (hpath.noDots (Address.noDots_of_read? hurl hurl' hpath.rooted))

/-- An encoded slash and an encoded point come back, with the query and the fragment. -/
theorem IsPlain.decode_encode_pair :
    ∃ p : Pattern, ∃ data path, p.IsPlain ∧
      p.decode "http:/x%2Fy/%2e.z?k=v#w".toList = some data ∧
      p.encodePath data.params = .ok path ∧ p.decode (withPath data path) = some data := by
  have hsome : (parse "/{a}/{b}".toList).toOption.any fun p =>
      (p.decode "http:/x%2Fy/%2e.z?k=v#w".toList).isSome := by decide +kernel
  obtain ⟨p, hparse, hsome⟩ := exists_of_any_toOption hsome
  obtain ⟨data, hdata⟩ := Option.isSome_iff_exists.mp hsome
  have hplain := isPlain_of_parse_pair hparse
  obtain ⟨path, hpath, -, -, hagain⟩ := IsPlain.decode_encode_iff hplain hdata
  have hscheme : Reference.scheme? (Reference.trim "http:/x%2Fy/%2e.z?k=v#w".toList) =
      some ("http".toList, "/x%2Fy/%2e.z?k=v#w".toList) := by decide +kernel
  refine ⟨p, data, path, hplain, hdata, hpath, hagain (.inl ?_)⟩
  rintro ⟨behind, hfile⟩
  have := Option.some.inj (hscheme.symm.trans hfile)
  exact absurd (Prod.mk.inj this).1 (by decide)

/-- Behind a drive letter and a tab, a dot segment is read as it stands.  What it is encoded to
is no longer decoded. -/
theorem exists_decode_encode_eq_none :
    ∃ p : Pattern, ∃ data url, p.IsPlain ∧ p.decode "file:C:\t..".toList = some data ∧
      p.encode data = .ok url ∧ p.decode url = none := by
  have hall : (parse "/{a}/{b}".toList).toOption.any fun p =>
      (p.decode "file:C:\t..".toList).any fun data =>
        (p.encode data).toOption.any fun url => (p.decode url).isNone := by decide +kernel
  obtain ⟨p, hparse, hall⟩ := exists_of_any_toOption hall
  obtain ⟨data, hdata, hall⟩ := (Option.any_eq_true _ _).mp hall
  obtain ⟨url, hurl, hnone⟩ := exists_of_any_toOption hall
  exact ⟨p, data, url, isPlain_of_parse_pair hparse, hdata, hurl,
    Option.isNone_iff_eq_none.mp hnone⟩

end Pattern
end Routing
