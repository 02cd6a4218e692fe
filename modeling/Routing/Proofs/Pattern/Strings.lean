/-
# Encoding strings

A pattern whose parameters are strings writes every text that is not empty, and reads what it has
written as the same text: what a path could take for something else is percent-encoded.  A point
is not.  So data comes back from its URL unless the path has a dot segment
(`IsPlain.decode_encode_strings_iff`), as the one of the value `..` may have
(`exists_decode_encode_strings_eq_none`).

A dot segment of the path is one of the template, or it is made of a value that consists of one or
two points (`IsPlain.exists_of_isDot`).

The octets of a dot segment are those of points, so every text within it consists of points, and a
value is encoded to points just if it consists of them (`Percent.eq_replicate_iff`).  To see
whether a segment of the template is one whatever the values are, its parameters are filled with
braces, which no dot segment has (`Token.isDot_braces`).
-/

import Routing.Proofs.Dictionary
import Routing.Proofs.Pattern.RoundTrip

namespace Routing
namespace Token

/-! ### Dot segments of a filled path -/

/-- The second piece is the first one, or one of the texts stands in it. -/
def HasText (texts : List Text) (s t : Text) : Prop :=
  s = t ∨ ∃ r ∈ texts, Percent.octets r <:+: Percent.octets t

/-- Fillings of the same tokens have related pieces, if whole octets in front of two pieces keep
the relation and two texts for one parameter bring it about. -/
theorem forall₂_splitBy_fill {R : Text → Text → Prop} (hnil : R [] [])
    (hfront : ∀ {u s t : Text} {bs : List UInt8},
      (∀ v, Percent.octets (u ++ v) = bs ++ Percent.octets v) → R s t → R (u ++ s) (u ++ t))
    {tokens : List Token} (hescaped : ∀ s, literal s ∈ tokens → Template.IsEscaped s)
    {texts texts' : List Text}
    (htexts : List.Forall₂ (fun r r' => '/' ∉ r ∧ '/' ∉ r' ∧ ∀ u u', R (r ++ u) (r' ++ u'))
      texts texts') :
    List.Forall₂ R (Text.splitBy (· == '/') (fill tokens texts))
      (Text.splitBy (· == '/') (fill tokens texts')) := by
  induction tokens generalizing texts texts' with
  | nil => exact .cons hnil .nil
  | cons token tokens ih =>
    have hrest := fun s hs => hescaped s (List.mem_cons_of_mem _ hs)
    cases token with
    | literal s =>
      exact forall₂_splitBy_append hnil hfront (hescaped s List.mem_cons_self) (ih hrest htexts)
    | param p =>
      cases htexts with
      | nil => exact ih hrest .nil
      | @cons r r' texts texts' hr htexts =>
        obtain ⟨hslash, hslash', hR⟩ := hr
        have ih := ih hrest htexts
        cases hsplit : Text.splitBy (· == '/') (fill tokens texts) with
        | nil => exact absurd hsplit (Text.splitBy_ne_nil _ _)
        | cons piece pieces =>
          rw [hsplit] at ih
          -- A text without a slash goes in front of the first piece and leaves the others.
          obtain ⟨piece', pieces', -, hpieces, hsplit'⟩ := List.forall₂_cons_left_iff.mp ih
          rw [fill, fill, splitBy_append hslash hsplit, splitBy_append hslash' hsplit']
          exact .cons (hR piece piece') hpieces

/-- **A piece of a filling stands in another filling, or it has one of the texts.**  So a dot
segment comes with the tokens, whatever is filled in, or with a text. -/
theorem exists_of_mem_pieces_fill {s : Text} {rest : List Token} {texts texts' : List Text}
    (hescaped : ∀ t, literal t ∈ literal ('/' :: s) :: rest → Template.IsEscaped t)
    (hlength : texts.length = texts'.length) (htexts : ∀ r ∈ texts, '/' ∉ r)
    (htexts' : ∀ r ∈ texts', '/' ∉ r ∧ Percent.Escaped Percent.component r) {t : Text}
    (ht : t ∈ Address.pieces (fill (literal ('/' :: s) :: rest) texts')) :
    t ∈ Address.pieces (fill (literal ('/' :: s) :: rest) texts) ∨
      ∃ r ∈ texts', Percent.octets r <:+: Percent.octets t := by
  have hfill : List.Forall₂ (HasText texts')
      (Text.splitBy (· == '/') (fill (literal ('/' :: s) :: rest) texts))
      (Text.splitBy (· == '/') (fill (literal ('/' :: s) :: rest) texts')) := by
    refine forall₂_splitBy_fill (.inl rfl) (fun {u s t bs} hu h => ?_) hescaped ?_
    · rcases h with rfl | ⟨r, hr, hwithin⟩
      · exact .inl rfl
      · exact .inr ⟨r, hr, hu t ▸ hwithin.trans (List.suffix_append bs _).isInfix⟩
    · refine List.forall₂_iff_zip.mpr ⟨hlength, fun {r r'} hpair => ?_⟩
      obtain ⟨hr, hr'⟩ := List.of_mem_zip hpair
      obtain ⟨hslash, hescaped⟩ := htexts' r' hr'
      refine ⟨htexts r hr, hslash, fun u u' => .inr ⟨r', hr', ?_⟩⟩
      rw [hescaped.octets_append]
      exact (List.prefix_append _ _).isInfix
  obtain ⟨-, hpieces⟩ := List.forall₂_cons.mp hfill
  obtain ⟨t', ht', heq | htext⟩ := exists_of_mem_right hpieces ht
  · exact .inl (heq ▸ ht')
  · exact .inr htext

/-- Two texts have the pieces of either, but for the last one of the first, which goes on with the
first one of the second. -/
theorem exists_splitBy_append (s : Text) {t piece : Text} {pieces : List Text}
    (ht : Text.splitBy (· == '/') t = piece :: pieces) :
    ∃ front last, Text.splitBy (· == '/') s = front ++ [last] ∧
      Text.splitBy (· == '/') (s ++ t) = front ++ (last ++ piece) :: pieces := by
  induction s with
  | nil => exact ⟨[], [], rfl, ht⟩
  | cons c s ih =>
    obtain ⟨front, last, hs, hst⟩ := ih
    rw [List.cons_append, Text.splitBy, Text.splitBy, hs, hst]
    by_cases hc : c = '/'
    · rw [if_pos (by simpa using hc), if_pos (by simpa using hc)]
      exact ⟨[] :: front, last, rfl, rfl⟩
    · rw [if_neg (by simpa using hc), if_neg (by simpa using hc)]
      cases front with
      | nil => exact ⟨[], c :: last, rfl, rfl⟩
      | cons first front => exact ⟨(c :: first) :: front, last, rfl, rfl⟩

/-- A text that stands for a parameter and is no part of a dot segment. -/
def braces : Text := ['\x7b', '\x7d']

/-- A segment with braces is no dot segment. -/
theorem isDot_braces (u v : Text) : Segments.isDot (u ++ (braces ++ v)) = false := by
  have hpoint : ∀ q ∈ Segments.points, '\x7b' ∉ q := by decide
  have hmem : '\x7b' ∈ u ++ (braces ++ v) := by simp [braces]
  rw [Segments.isDot, Bool.or_eq_false_iff, Bool.eq_false_iff, Bool.eq_false_iff, ne_eq, ne_eq,
    Segments.isSingleDot_iff_mem, Segments.isDoubleDot_iff_exists]
  refine ⟨fun h => hpoint _ h hmem, ?_⟩
  rintro ⟨q, hq, q', hq', heq⟩
  rcases List.mem_append.mp (heq ▸ hmem) with h | h
  · exact hpoint q hq h
  · exact hpoint q' hq' h

/-- Braces in front of a text without dot segments make none up. -/
theorem noDots_braces_append {t : Text}
    (ht : ∀ s ∈ Text.splitBy (· == '/') t, Segments.isDot s = false) :
    ∀ s ∈ Text.splitBy (· == '/') (braces ++ t), Segments.isDot s = false := by
  cases hsplit : Text.splitBy (· == '/') t with
  | nil => exact absurd hsplit (Text.splitBy_ne_nil _ _)
  | cons piece pieces =>
    rw [hsplit] at ht
    rw [splitBy_append (r := braces) (by decide) hsplit]
    exact List.forall_mem_cons.mpr ⟨isDot_braces [] piece, (List.forall_mem_cons.mp ht).2⟩

/-- The last piece of a text that braces follow goes on with them, so it is no dot segment. -/
theorem noDots_append_braces {u t : Text}
    (hu : ∀ s ∈ Text.splitBy (· == '/') u, Segments.isDot s = false)
    (ht : ∀ s ∈ Text.splitBy (· == '/') (braces ++ t), Segments.isDot s = false) :
    ∀ s ∈ Text.splitBy (· == '/') (u ++ (braces ++ t)), Segments.isDot s = false := by
  cases hsplit : Text.splitBy (· == '/') t with
  | nil => exact absurd hsplit (Text.splitBy_ne_nil _ _)
  | cons piece pieces =>
    have hbraces := splitBy_append (r := braces) (by decide) hsplit
    obtain ⟨front, last, hfront, happend⟩ := exists_splitBy_append u hbraces
    rw [hfront] at hu
    rw [hbraces] at ht
    rw [happend]
    refine List.forall_mem_append.mpr ⟨fun s hs => hu s (List.mem_append_left _ hs), ?_⟩
    exact List.forall_mem_cons.mpr ⟨isDot_braces last piece, (List.forall_mem_cons.mp ht).2⟩

/-- If no literal has a dot segment, the tokens with braces for their parameters have none. -/
theorem noDots_fill_braces {tokens : List Token} (hjoined : IsJoined tokens)
    (h : ∀ s, literal s ∈ tokens → ∀ t ∈ Text.splitBy (· == '/') s, Segments.isDot t = false) :
    ∀ t ∈ Text.splitBy (· == '/') (fill tokens ((params tokens).map fun _ => braces)),
      Segments.isDot t = false := by
  induction tokens with
  | nil => exact List.forall_mem_cons.mpr ⟨rfl, by simp⟩
  | cons token tokens ih =>
    have hrest := fun s hs => h s (List.mem_cons_of_mem _ hs)
    cases token with
    | literal s =>
      have hs := h s List.mem_cons_self
      have ih := ih hjoined.2.2 hrest
      -- No literal follows another one, so braces follow it.
      cases tokens with
      | nil => rwa [fill, fill, List.append_nil]
      | cons next tokens =>
        cases next with
        | literal t => exact absurd rfl (hjoined.2.1 t)
        | param q => exact noDots_append_braces hs ih
    | param q => exact noDots_braces_append (ih hjoined hrest)

end Token

namespace Segments

/-- What stands in a dot segment is a dot segment. -/
theorem isDot_of_isInfix {r t : Text} (hne : r ≠ []) (hdot : isDot t)
    (hwithin : Percent.octets r <:+: Percent.octets t) : isDot r := by
  obtain ⟨n, hn, ht⟩ : ∃ n ≤ 2, Percent.octets t = List.replicate n 0x2E := by
    rcases (isDot_iff t).mp hdot with ht | ht
    · exact ⟨1, by decide, ht⟩
    · exact ⟨2, by decide, ht⟩
  obtain ⟨m, hm, hr⟩ := List.sublist_replicate_iff.mp (ht ▸ hwithin.sublist)
  have hpos : m ≠ 0 := by
    rintro rfl
    exact hne (octets_eq_nil hr)
  rw [isDot_iff, hr]
  rcases (by omega : m = 1 ∨ m = 2) with rfl | rfl
  · exact .inl rfl
  · exact .inr rfl

/-- An encoded text is a dot segment if it consists of one or two points. -/
theorem isDot_encodeText_iff (s : Text) :
    isDot (Pattern.encodeText s) ↔ s = ['.'] ∨ s = ['.', '.'] := by
  have hs : Percent.decode? (Pattern.encodeText s) = some s := Percent.decode?_encode (by decide) s
  have hpoint := Percent.eq_replicate_iff hs (n := 1)
  have hpoints := Percent.eq_replicate_iff hs (n := 2)
  rw [isDot_iff]
  exact (or_congr hpoint hpoints).symm

end Segments

/-- A list beside its images is a list of pairs. -/
theorem zip_map_self {α β : Type} (f : α → β) (l : List α) :
    l.zip (l.map f) = l.map fun a => (a, f a) := by
  simpa only [List.map_id_fun, id_eq] using @List.zip_map' α α β id f l

namespace Pattern

variable {p : Pattern} {d : Dictionary Value}

/-! ### Patterns that are filled with strings -/

/-- Every parameter is a string. -/
def HasStrings (p : Pattern) : Prop := ∀ param ∈ p.params, param.decoder = .string

/-- The keys are the names of the parameters, and the values are strings that are not empty. -/
structure IsFilledBy (p : Pattern) (d : Dictionary Value) : Prop where
  /-- The keys are the names. -/
  keys : ∀ name, name ∈ d.keys ↔ name ∈ p.params.map Param.name
  /-- The values are strings with characters. -/
  values : ∀ name value, d.get? name = some value → ∃ s, value = .string s ∧ s ≠ []

/-- The string of a parameter. -/
def stringOf (d : Dictionary Value) (param : Param) : Text :=
  match d.get? param.name with
  | some (.string s) => s
  | _ => []

/-- The path of the template with braces in place of the parameters. -/
def outline (p : Pattern) : Text := Token.fill p.tokens (p.params.map fun _ => Token.braces)

/-- No literal has a dot segment. -/
def HasNoDots (p : Pattern) : Prop :=
  ∀ s, Token.literal s ∈ p.tokens → ∀ t ∈ Text.splitBy (· == '/') s, Segments.isDot t = false

/-- A template has no dot segments if its literals have none. -/
theorem IsPlain.noDots_outline (h : p.IsPlain) (hliterals : p.HasNoDots) :
    ∀ t ∈ Address.pieces p.outline, Segments.isDot t = false := by
  have hall := Token.noDots_fill_braces h.isJoined hliterals
  obtain ⟨s, rest, heq⟩ := h.exists_cons
  rw [outline, params, heq]
  rw [heq] at hall
  exact (List.forall_mem_cons.mp hall).2

/-- Every parameter has a string for its value, and the string is not empty. -/
theorem IsFilledBy.get? (h : p.IsFilledBy d) {param : Param} (hparam : param ∈ p.params) :
    d.get? param.name = some (.string (stringOf d param)) ∧ stringOf d param ≠ [] := by
  obtain ⟨value, hvalue⟩ :=
    Dictionary.mem_keys_iff.mp ((h.keys param.name).mpr (List.mem_map_of_mem hparam))
  obtain ⟨s, rfl, hs⟩ := h.values _ _ hvalue
  have hstring : stringOf d param = s := by rw [stringOf, hvalue]
  exact ⟨hstring ▸ hvalue, hstring ▸ hs⟩

/-- The values of the parameters make up the dictionary. -/
theorem IsFilledBy.named_eq (h : p.IsFilledBy d) (hnames : (p.params.map Param.name).Nodup) :
    named p.params (p.params.map fun param => .string (stringOf d param)) = d := by
  let value (param : Param) : Value := .string (stringOf d param)
  refine Dictionary.ext_get? fun key => ?_
  by_cases hkey : key ∈ p.params.map Param.name
  · obtain ⟨param, hparam, rfl⟩ := List.mem_map.mp hkey
    have hpair : (param, value param) ∈ p.params.zip (p.params.map value) := by
      rw [zip_map_self]
      exact List.mem_map_of_mem hparam
    rw [get?_named hnames (List.length_map _) hpair, (h.get? hparam).1]
  · have hnone {d : Dictionary Value} (hkeys : key ∉ d.keys) : d.get? key = none := by
      rw [Dictionary.mem_keys_iff, not_exists] at hkeys
      exact Option.eq_none_iff_forall_ne_some.mpr hkeys
    rw [hnone (mt (h.keys key).mp hkey), hnone]
    rwa [named, Dictionary.mem_keys_ofList, List.map_fst_zip (by simp)]

variable {data : RouteData}

/-- The texts that the parameters are encoded to. -/
def textsOf (p : Pattern) (d : Dictionary Value) : List Text :=
  p.params.map fun param => encodeText (stringOf d param)

/-- What is encoded for the parameters is taken by them. -/
theorem IsFilledBy.isText (h : p.IsFilledBy d) : ∀ r ∈ p.textsOf d, Token.IsText r := by
  intro r hr
  obtain ⟨param, hparam, rfl⟩ := List.mem_map.mp hr
  exact ⟨fun hnil => (h.get? hparam).2 (Percent.encode_eq_nil hnil), slash_not_mem_encodeText _⟩

/-- Strings are encoded by filling them in. -/
theorem IsFilledBy.encodePath (h : p.IsFilledBy d) (hstrings : p.HasStrings) :
    p.encodePath d = .ok (Token.fill p.tokens (p.textsOf d)) := by
  refine encodePath_eq_ok_iff.mpr ⟨p.textsOf d, ?_, rfl⟩
  refine List.forall₂_map_right_iff.mpr (List.forall₂_same.mpr fun param hparam => ?_)
  rw [encodeToken, (h.get? hparam).1, hstrings param hparam]
  rfl

/-- A path that is read as it is written is decoded to the strings that it was written for. -/
theorem IsPlain.decode_fill (h : p.IsPlain) (hstrings : p.HasStrings)
    (hdata : p.IsFilledBy data.params)
    (hcanonical : Address.IsCanonical (Token.fill p.tokens (p.textsOf data.params))) :
    p.decode (withPath data (Token.fill p.tokens (p.textsOf data.params))) = some data := by
  have hread := Address.read?_render (a := ⟨_, data.search, data.hash⟩) hcanonical
  have hsplits := Token.splits_fill (List.length_map _) hdata.isText
  refine (h.hasDefaultMatchers.decode_eq_some_iff hread).mpr
    ⟨p.textsOf data.params, p.params.map fun param => .string (stringOf data.params param),
      h.separated.isGreatestSplit hsplits, ?_, by rw [hdata.named_eq h.nodup_names]⟩
  rw [textsOf, zip_map_self]
  refine List.forall₂_map_left_iff.mpr (List.forall₂_map_right_iff.mpr ?_)
  refine List.forall₂_same.mpr fun param hparam => ?_
  exact ⟨_, Percent.decode?_encode (by decide) _, by rw [hstrings param hparam]; rfl⟩

/-- A dot segment of the path is one of the template, or it is made of a value of points. -/
theorem IsPlain.exists_of_isDot (h : p.IsPlain) (hd : p.IsFilledBy d) {s : Text}
    (hs : s ∈ Address.pieces (Token.fill p.tokens (p.textsOf d))) (hdot : Segments.isDot s) :
    s ∈ Address.pieces p.outline ∨
      ∃ name, d.get? name = some (.string ['.']) ∨ d.get? name = some (.string ['.', '.']) := by
  obtain ⟨t, rest, heq⟩ := h.exists_cons
  have hescaped := heq ▸ h.isEscaped
  have htexts : ∀ r ∈ p.textsOf d, '/' ∉ r ∧ Percent.Escaped Percent.component r := by
    intro r hr
    obtain ⟨param, -, rfl⟩ := List.mem_map.mp hr
    exact ⟨slash_not_mem_encodeText _, Percent.escaped_encode (by decide) _⟩
  rw [heq] at hs
  rw [outline, heq]
  refine (Token.exists_of_mem_pieces_fill hescaped ?_ ?_ htexts hs).imp_right ?_
  · rw [textsOf, List.length_map, List.length_map]
  · intro r hr
    obtain ⟨param, -, rfl⟩ := List.mem_map.mp hr
    decide
  · rintro ⟨r, hr, hwithin⟩
    have hpoints := Segments.isDot_of_isInfix (hd.isText r hr).1 hdot hwithin
    obtain ⟨param, hparam, rfl⟩ := List.mem_map.mp hr
    have hget := (hd.get? hparam).1
    refine ⟨param.name, ((Segments.isDot_encodeText_iff _).mp hpoints).imp ?_ ?_⟩
    · exact fun heq => heq ▸ hget
    · exact fun heq => heq ▸ hget

/-- **Strings come back from the URL that they are encoded to unless its path has a dot segment.**
It has none if the template has none and no value consists of one or two points. -/
theorem IsPlain.decode_encode_strings_iff (h : p.IsPlain) (hstrings : p.HasStrings)
    (hdata : p.IsFilledBy data.params) :
    ∃ path, p.encodePath data.params = .ok path ∧ p.encode data = .ok (withPath data path) ∧
      (p.decode (withPath data path) = some data ↔
        ∀ s ∈ Address.pieces path, Segments.isDot s = false) ∧
      ((∃ s ∈ Address.pieces path, Segments.isDot s) → p.decode (withPath data path) = none) ∧
      ((∀ s ∈ Address.pieces p.outline, Segments.isDot s = false) →
        (∀ name, data.params.get? name ≠ some (.string ['.']) ∧
          data.params.get? name ≠ some (.string ['.', '.'])) →
        p.decode (withPath data path) = some data) := by
  have hpath := hdata.encodePath hstrings
  have hdots {found : RouteData} (hfound : p.decode (withPath data _) = some found) :=
    (h.isCanonical_of_decode hpath hfound).noDots
  -- Without a dot segment, the texts are read where they were filled in.
  have hagain (hdots : ∀ s ∈ Address.pieces (Token.fill p.tokens (p.textsOf data.params)),
      Segments.isDot s = false) := by
    refine h.decode_fill hstrings hdata ⟨h.isWritten_fill fun r hr => ?_, ?_, hdots⟩
    · obtain ⟨param, -, rfl⟩ := List.mem_map.mp hr
      exact ⟨_, rfl⟩
    · exact h.head?_tail_fill (List.length_map _) hdata.isText
  refine ⟨_, hpath, ?_, ⟨hdots, hagain⟩, fun ⟨s, hs, hdot⟩ => ?_, fun houtline hvalues => ?_⟩
  · rw [encode, hpath]
    rfl
  · refine Option.eq_none_iff_forall_ne_some.mpr fun found hfound => ?_
    exact absurd hdot (by simp [hdots hfound s hs])
  · refine hagain fun s hs => Bool.eq_false_iff.mpr fun hdot => ?_
    rcases h.exists_of_isDot hdata hs hdot with hmem | ⟨name, hpoint | hpoints⟩
    · exact absurd hdot (by simp [houtline s hmem])
    · exact (hvalues name).1 hpoint
    · exact (hvalues name).2 hpoints

/-! ### Two strings -/

/-- The pattern of two strings has strings alone. -/
theorem hasStrings_of_parse_pair (h : parse "/{a}/{b}".toList = .ok p) : p.HasStrings := by
  rw [HasStrings, params, tokens_of_parse_pair h]
  exact List.forall_mem_cons.mpr ⟨rfl, List.forall_mem_cons.mpr ⟨rfl, by simp⟩⟩

/-- The pattern of two strings has no dot segment of its own. -/
theorem hasNoDots_of_parse_pair (h : parse "/{a}/{b}".toList = .ok p) : p.HasNoDots := by
  intro s hs
  rw [tokens_of_parse_pair h] at hs
  have hslash : s = ['/'] := by simpa using hs
  rw [hslash]
  decide

/-- The values of two parameters. -/
def pairOf (a b : Text) : Dictionary Value :=
  ⟨[(['a'], .string a), (['b'], .string b)],
    List.pairwise_pair.mpr (by decide : (['a'] : Text) < ['b'])⟩

/-- The values of a pair are its two strings. -/
theorem get?_pairOf {a b name : Text} {value : Value} (h : (pairOf a b).get? name = some value) :
    value = .string a ∨ value = .string b := by
  have hmem := Dictionary.get?_eq_some_iff.mp h
  simp only [pairOf, List.mem_cons, Prod.mk.injEq, List.not_mem_nil, or_false] at hmem
  exact hmem.imp And.right And.right

/-- The pattern of two strings is filled by a pair of strings that are not empty. -/
theorem isFilledBy_pairOf (h : parse "/{a}/{b}".toList = .ok p) {a b : Text} (ha : a ≠ [])
    (hb : b ≠ []) : p.IsFilledBy (pairOf a b) := by
  refine ⟨fun name => ?_, fun name value hvalue => ?_⟩
  · rw [params, tokens_of_parse_pair h]
    rfl
  · rcases get?_pairOf hvalue with rfl | rfl
    · exact ⟨a, rfl, ha⟩
    · exact ⟨b, rfl, hb⟩

/-- An escape, a slash and three points come back. -/
theorem IsPlain.decode_encode_strings_pair :
    ∃ p : Pattern, ∃ url, p.IsPlain ∧ p.HasStrings ∧
      p.IsFilledBy (pairOf "é/%2E".toList "...".toList) ∧
      p.encode ⟨pairOf "é/%2E".toList "...".toList, .ofList [(['k'], ['v'])], ['#']⟩ = .ok url ∧
      p.decode url =
        some ⟨pairOf "é/%2E".toList "...".toList, .ofList [(['k'], ['v'])], ['#']⟩ := by
  have hany : (parse "/{a}/{b}".toList).toOption.any fun _ => true := by decide +kernel
  obtain ⟨p, hparse, -⟩ := exists_of_any_toOption hany
  have hplain := isPlain_of_parse_pair hparse
  have hstrings := hasStrings_of_parse_pair hparse
  have hdata := isFilledBy_pairOf hparse (a := "é/%2E".toList) (b := "...".toList)
    (by decide) (by decide)
  obtain ⟨path, -, hencode, -, -, hdecode⟩ := @IsPlain.decode_encode_strings_iff p
    ⟨_, .ofList [(['k'], ['v'])], ['#']⟩ hplain hstrings hdata
  refine ⟨p, _, hplain, hstrings, hdata, hencode,
    hdecode (hplain.noDots_outline (hasNoDots_of_parse_pair hparse)) fun name =>
      ⟨fun hget => ?_, fun hget => ?_⟩⟩
  · rcases get?_pairOf hget with heq | heq <;> exact absurd (Value.string.inj heq) (by decide)
  · rcases get?_pairOf hget with heq | heq <;> exact absurd (Value.string.inj heq) (by decide)

/-- Two points are encoded to a dot segment, which is not decoded again. -/
theorem exists_decode_encode_strings_eq_none :
    ∃ p : Pattern, ∃ url, p.IsPlain ∧ p.HasStrings ∧ p.HasNoDots ∧
      p.IsFilledBy (pairOf "x".toList "..".toList) ∧
      p.encode ⟨pairOf "x".toList "..".toList, .empty, []⟩ = .ok url ∧ p.decode url = none := by
  have hany : (parse "/{a}/{b}".toList).toOption.any fun p =>
      (p.encode ⟨pairOf "x".toList "..".toList, .empty, []⟩).toOption.any fun url =>
        (p.decode url).isNone := by decide +kernel
  obtain ⟨p, hparse, hany⟩ := exists_of_any_toOption hany
  obtain ⟨url, hencode, hnone⟩ := exists_of_any_toOption hany
  exact ⟨p, url, isPlain_of_parse_pair hparse, hasStrings_of_parse_pair hparse,
    hasNoDots_of_parse_pair hparse, isFilledBy_pairOf hparse (by decide) (by decide), hencode,
    Option.isNone_iff_eq_none.mp hnone⟩

end Pattern
end Routing
