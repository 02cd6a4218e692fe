/-
# Locations of decoded datetimes

A URL that a regular pattern decodes has a location just if the years of its instants have four
digits in UTC, and the path that its data is rendered to has no dot segment
(`Route.exists_locatesDecoded`).  The location holds the data without what is below a millisecond.
An instant that its offset takes to the year 10000, or a day of another year, has none: its
rendering is not read.

Writing a value anew changes the text of a parameter and never the tokens around it, so the new
path splits at the same places (`IsRegular.exists_rewritten`).  Whether it is decoded is then asked
for each parameter on its own, and only instants can fail to be: their year may have more than four
digits when it is counted in UTC.
-/

import Routing.Proofs.Decoder.Datetimes
import Routing.Proofs.Location.Settled

namespace Routing

/-- The value is the instant. -/
def Value.isInstant (t : Instant) : Value → Bool
  | datetime found => found = t
  | _ => false

/-- The value of an instant is that instant and no other value. -/
theorem Value.isInstant_iff {t : Instant} {v : Value} : v.isInstant t ↔ v = .datetime t := by
  cases v with
  | datetime found => simp [isInstant]
  | string | boolean | integer | float | date | array =>
    exact iff_of_false (by rintro ⟨⟩) (by rintro ⟨⟩)

namespace Pattern

variable {p : Pattern}

/-- The instants that are given for the parameters have years of four digits. -/
def HasShortYears (p : Pattern) (d : Dictionary Value) : Prop :=
  ∀ param ∈ p.params, ∀ v, d.get? param.name = some v → param.decoder.HasShortYears v

/-- The data without what is below a millisecond in its instants. -/
structure IsTruncation (p : Pattern) (data found : RouteData) : Prop where
  /-- Every parameter has a value, and has it without what is below a millisecond. -/
  params : ∀ param ∈ p.params, ∃ v, data.params.get? param.name = some v ∧
    found.params.get? param.name = some (param.decoder.truncate v)
  /-- The query is the same. -/
  search : found.search = data.search
  /-- The fragment is the same. -/
  hash : found.hash = data.hash

/-- A text of a path, written for the value that the text of a parameter was read as. -/
structure IsRewritten (d : Dictionary Value) (param : Param) (r r' : Text) : Prop where
  /-- The value is encoded to it. -/
  encode : encodeToken d (.param param) = .ok r'
  /-- It is not empty and has no slash. -/
  isText : Token.IsText r'
  /-- It stands for points only where the first text did. -/
  renews : Token.Renews r r'
  /-- It is read without what is below a millisecond, if the years have four digits. -/
  decodes : ∃ v, d.get? param.name = some v ∧
    ∀ w, param.DecodesTo r' w ↔ param.decoder.HasShortYears v ∧ w = param.decoder.truncate v

/-- A text that was decoded has a value, which is written anew. -/
theorem exists_isRewritten {d : Dictionary Value} {param : Param} {r : Text} {v : Value}
    (hdecoder : param.decoder.IsBuiltIn) (hr : Token.IsText r) (hdecode : param.DecodesTo r v)
    (hget : d.get? param.name = some v) : ∃ r', IsRewritten d param r r' := by
  obtain ⟨t, ht, hv⟩ := hdecode
  obtain ⟨s, hs⟩ := Decoder.exists_writtenAs hdecoder hv
  obtain ⟨htext, hrenews⟩ := isText_and_renews hr ht hs.points
  refine ⟨encodeText s, encodeToken_eq_ok_iff.mpr ⟨v, s, hget, hs.encode, rfl⟩, htext, hrenews,
    v, hget, fun w => ?_⟩
  rw [decodesTo_encodeText_iff, hs.decode_iff]

/-- The pattern of a datetime is regular. -/
theorem isRegular_of_parse_datetime (h : parse "/{t:datetime}".toList = .ok p) :
    p.IsRegular ∧ p.params = [⟨['t'], .datetime⟩] := by
  have htokens : p.tokens = [.literal ['/'], .param ⟨['t'], .datetime⟩] := tokens_of_parse h rfl
  refine ⟨⟨⟨_, h⟩, ?_, ?_⟩, ?_⟩
  · simp [htokens]
  · simp [htokens, Token.Separated, Token.SlashFirst]
  · rw [params, htokens]
    rfl

namespace IsRegular

/-- A regular pattern has default matchers. -/
theorem hasDefaultMatchers (h : p.IsRegular) : p.HasDefaultMatchers := by
  obtain ⟨template, hparse⟩ := h.parsed
  exact hasDefaultMatchers_of_parse hparse

/-- **Data that was decoded is encoded**, with a text written anew for each parameter. -/
theorem exists_rewritten (h : p.IsRegular) {url : Text} {address : Address} {data : RouteData}
    (hurl : Address.read? url = some address) (hdecode : p.decode url = some data) :
    ∃ texts, p.IsWrittenAnew address data.params (Token.fill p.tokens texts) ∧
      List.Forall₂ (fun param r' => ∃ r, IsRewritten data.params param r r') p.params texts := by
  obtain ⟨template, hparse⟩ := h.parsed
  obtain ⟨texts, hgreatest, hvalues, -⟩ :=
    h.hasDefaultMatchers.exists_texts h.nodup_names hurl hdecode
  have hsplits := hgreatest.splits
  have hlength : texts.length = p.params.length := hsplits.length_eq
  have hwritten : ∀ pair ∈ p.params.zip texts, ∃ r', IsRewritten data.params pair.1 pair.2 r' := by
    intro pair hpair
    obtain ⟨hparam, hr⟩ := List.of_mem_zip hpair
    obtain ⟨v, hv, hget⟩ := hvalues pair.1 pair.2 hpair
    exact exists_isRewritten (isBuiltIn_of_parse hparse _ hparam) (hsplits.isText _ hr) hv hget
  obtain ⟨anew, hanew⟩ := exists_forall₂ hwritten
  have hparams : List.Forall₂ (fun param r' => ∃ r, IsRewritten data.params param r r') p.params
      anew := by
    rw [← List.map_fst_zip (Nat.le_of_eq hlength.symm), List.forall₂_map_left_iff]
    exact hanew.imp fun pair _ h => ⟨pair.2, h⟩
  have hrenews : List.Forall₂ Token.Renews texts anew := by
    have := List.forall₂_map_left_iff.mpr (hanew.imp fun _ _ h => h.renews)
    rwa [List.map_snd_zip (Nat.le_of_eq hlength)] at this
  refine ⟨anew, h.isWrittenAnew hsplits (fun r' hr' => ?_) hrenews
    (hparams.imp fun _ _ ⟨_, h⟩ => h.encode), hparams⟩
  obtain ⟨_, -, _, hr⟩ := exists_of_mem_right hparams hr'
  exact hr.isText

variable {data : RouteData} {texts : List Text}

/-- A path that was written anew is decoded only if the years have four digits, and without what is
below a millisecond. -/
theorem isTruncation_of_decode (h : p.IsRegular)
    (htexts : List.Forall₂ (fun param r' => ∃ r, IsRewritten data.params param r r') p.params texts)
    {found : RouteData}
    (hdecode : p.decode (withPath data (Token.fill p.tokens texts)) = some found) :
    Address.IsCanonical (Token.fill p.tokens texts) ∧ p.HasShortYears data.params ∧
      p.IsTruncation data found := by
  have hencodes := htexts.imp fun _ _ ⟨_, h⟩ => h.encode
  have hpath := encodePath_eq_ok_iff.mpr ⟨texts, hencodes, rfl⟩
  have hcanonical :=
    h.hasDefaultMatchers.isCanonical_of_decode h.isJoined h.exists_cons hpath hdecode
  have hread := Address.read?_render
    (a := ⟨Token.fill p.tokens texts, data.search, data.hash⟩) hcanonical
  obtain ⟨texts', hgreatest, hvalues, hsearch, hhash⟩ :=
    h.hasDefaultMatchers.exists_texts h.nodup_names hread hdecode
  -- The path is split where it was put together.
  have hsplits := hgreatest.splits
  obtain rfl : texts = texts' := h.separated.fill_injective hencodes.length_eq.symm
    hsplits.length_eq (slash_not_mem_of_encodes hencodes) (fun r hr => (hsplits.isText r hr).2)
    hsplits.eq_fill
  have hparam (param : Param) (hmem : param ∈ p.params) : ∃ v,
      data.params.get? param.name = some v ∧ param.decoder.HasShortYears v ∧
        found.params.get? param.name = some (param.decoder.truncate v) := by
    obtain ⟨r', ⟨_, hr⟩, hzip⟩ := exists_mem_zip htexts hmem
    obtain ⟨v, hget, hiff⟩ := hr.decodes
    obtain ⟨w, hw, hfound⟩ := hvalues param r' hzip
    obtain ⟨hyears, rfl⟩ := (hiff w).mp hw
    exact ⟨v, hget, hyears, hfound⟩
  refine ⟨hcanonical, fun param hmem v hv => ?_, fun param hmem => ?_, hsearch, hhash⟩
  · obtain ⟨v', hget, hyears, -⟩ := hparam param hmem
    rw [hv] at hget
    exact Option.some.inj hget ▸ hyears
  · obtain ⟨v, hget, -, hfound⟩ := hparam param hmem
    exact ⟨v, hget, hfound⟩

/-- A path that was written anew is decoded if the years have four digits, and it is read as it is
written. -/
theorem exists_decode (h : p.IsRegular)
    (htexts : List.Forall₂ (fun param r' => ∃ r, IsRewritten data.params param r r') p.params texts)
    (hcanonical : Address.IsCanonical (Token.fill p.tokens texts))
    (hyears : p.HasShortYears data.params) :
    ∃ found, p.decode (withPath data (Token.fill p.tokens texts)) = some found := by
  have hread := Address.read?_render
    (a := ⟨Token.fill p.tokens texts, data.search, data.hash⟩) hcanonical
  have hisText : ∀ r' ∈ texts, Token.IsText r' := fun r' hr' => by
    obtain ⟨_, -, _, hr⟩ := exists_of_mem_right htexts hr'
    exact hr.isText
  have hsplits := Token.splits_fill htexts.length_eq.symm hisText
  have hdecodes : ∀ pair ∈ p.params.zip texts, ∃ w, pair.1.DecodesTo pair.2 w := by
    intro pair hpair
    obtain ⟨_, hr⟩ := (List.forall₂_iff_zip.mp htexts).2 hpair
    obtain ⟨v, hget, hiff⟩ := hr.decodes
    exact ⟨_, (hiff _).mpr ⟨hyears _ (List.of_mem_zip hpair).1 v hget, rfl⟩⟩
  obtain ⟨values, hvalues⟩ := exists_forall₂ hdecodes
  exact ⟨_, (h.hasDefaultMatchers.decode_eq_some_iff hread).mpr
    ⟨texts, values, h.separated.isGreatestSplit hsplits, hvalues, rfl⟩⟩

end IsRegular
end Pattern

namespace Route

variable {r : Route} {data : RouteData}

/-- A route has no location for data that is rendered to a URL that it does not decode. -/
theorem locate_eq_noMatch {path : Text} (hpath : r.pattern.encodePath data.params = .ok path)
    (hdecode : r.pattern.decode (Pattern.withPath data path) = none) :
    r.locate data = .error (.noMatch (Pattern.withPath data path)) := by
  rw [locate, hpath]
  dsimp only
  rw [hdecode]

/-- What a route makes of the data that it decoded from a URL. -/
structure LocatesDecoded (r : Route) (url : Text) (data : RouteData) (path : Text) : Prop where
  /-- The data is encoded to the path. -/
  encodePath : r.pattern.encodePath data.params = .ok path
  /-- The data has a location just if its years have four digits and the path no dot segment. -/
  exists_iff : (∃ location, r.locate data = .ok location) ↔
    r.pattern.HasShortYears data.params ∧ ∀ s ∈ Address.pieces path, Segments.isDot s = false
  /-- The location holds the data without what is below a millisecond. -/
  isTruncation : ∀ location, r.locate data = .ok location →
    r.pattern.IsTruncation data location.data
  /-- Data without location matches no longer. -/
  noMatch : (¬∃ location, r.locate data = .ok location) →
    r.locate data = .error (.noMatch (Pattern.withPath data path))
  /-- The path has no dot segment unless the URL is the one of a file with a line break in it. -/
  noDots : ¬Reference.IsFile url ∨ Reference.NoBreaks url →
    ∀ s ∈ Address.pieces path, Segments.isDot s = false

/-- **A URL that decodes has a location just if the years of its instants have four digits** and no
dot segment is rendered. -/
theorem exists_locatesDecoded (h : r.pattern.IsRegular) {url : Text}
    (hdecode : r.pattern.decode url = some data) : ∃ path, r.LocatesDecoded url data path := by
  cases hurl : Address.read? url with
  | none =>
    rw [Pattern.decode, Pattern.tryDecode, hurl] at hdecode
    cases hdecode
  | some address =>
    obtain ⟨texts, hpath, htexts⟩ := h.exists_rewritten hurl hdecode
    -- A location is made only of what the path that was encoded decodes to.
    have hlocated {location : Location} (hlocate : r.locate data = .ok location) :
        r.pattern.decode (Pattern.withPath data (Token.fill r.pattern.tokens texts)) =
          some location.data := by
      obtain ⟨path, found, hpath', hfound, rfl⟩ := locate_eq_ok_iff.mp hlocate
      rw [hpath.encodePath] at hpath'
      exact Except.ok.inj hpath' ▸ hfound
    refine ⟨_, hpath.encodePath, ⟨?_, ?_⟩, ?_, fun hnone => ?_, fun hfile => ?_⟩
    case refine_1 =>
      rintro ⟨location, hlocate⟩
      obtain ⟨hcanonical, hyears, -⟩ := h.isTruncation_of_decode htexts (hlocated hlocate)
      exact ⟨hyears, hcanonical.noDots⟩
    case refine_2 =>
      rintro ⟨hyears, hdots⟩
      obtain ⟨found, hfound⟩ := h.exists_decode htexts ⟨hpath.isWritten, hpath.single, hdots⟩ hyears
      exact ⟨_, locate_eq_ok_iff.mpr ⟨_, found, hpath.encodePath, hfound, rfl⟩⟩
    case refine_3 =>
      intro location hlocate
      exact (h.isTruncation_of_decode htexts (hlocated hlocate)).2.2
    case refine_4 =>
      refine locate_eq_noMatch hpath.encodePath (Option.eq_none_iff_forall_ne_some.mpr ?_)
      intro found hfound
      exact hnone ⟨_, locate_eq_ok_iff.mpr ⟨_, found, hpath.encodePath, hfound, rfl⟩⟩
    case refine_5 => exact hpath.noDots (Address.noDots_of_read? hurl hfile hpath.rooted)

/-- **What was read of a datetime is read again without what is below a millisecond**, in a leap
second too, just if its year has four digits.  A URL that decodes has a location under this
condition on all its instants, as long as no dot segment is rendered. -/
theorem rereads_datetimes (s url : Text) :
    (∀ v, Decoder.datetime.decode s = .ok v → ∃ t text, v = .datetime t ∧
      Decoder.datetime.encode v = .ok text ∧
      Decoder.datetime.decode text = if t.HasShortYear then .ok (.datetime t.truncated)
        else .error (.datetime text)) ∧
    ∀ r : Route, r.pattern.IsRegular → ∀ data, r.pattern.decode url = some data →
      ∃ path, r.LocatesDecoded url data path := by
  constructor
  · intro v h
    obtain ⟨t, rfl, hencode, hdecode⟩ := Decoder.decode_datetime_render h
    exact ⟨t, t.render, rfl, hencode, hdecode⟩
  · intro r h data hdecode
    exact exists_locatesDecoded h hdecode

/-- The leap second at the end of 2016, in a zone where it is the morning of the next year. -/
theorem rereads_datetimes_leap :
    (∃ text, Decoder.datetime.decode "2017-01-01T05:29:60.1239+05:30".toList =
        .ok (.datetime ⟨1483228799, 1123900000⟩) ∧
      Decoder.datetime.encode (.datetime ⟨1483228799, 1123900000⟩) = .ok text ∧
      Decoder.datetime.decode text = .ok (.datetime ⟨1483228799, 1123000000⟩)) ∧
    ∃ r : Route, ∃ data location, Pattern.parse "/{t:datetime}".toList = .ok r.pattern ∧
      r.pattern.IsRegular ∧
      r.pattern.decode "/2017-01-01T05:29:60.1239+05:30".toList = some data ∧
      data.params.get? ['t'] = some (.datetime ⟨1483228799, 1123900000⟩) ∧
      r.locate data = .ok location ∧
      location.data.params.get? ['t'] = some (.datetime ⟨1483228799, 1123000000⟩) := by
  have hshort : Instant.HasShortYear ⟨1483228799, 1123900000⟩ := by decide +kernel
  have hparse : Instant.parse? "2017-01-01T05:29:60.1239+05:30".toList =
      some ⟨1483228799, 1123900000⟩ := by decide +kernel
  have hdecode : Decoder.datetime.decode "2017-01-01T05:29:60.1239+05:30".toList =
      .ok (.datetime ⟨1483228799, 1123900000⟩) := by
    rw [Decoder.decode, Decoder.decodeDatetime, hparse]
  have hsome : (Pattern.parse "/{t:datetime}".toList).toOption.any fun p =>
      (p.decode "/2017-01-01T05:29:60.1239+05:30".toList).any fun data =>
        (data.params.get? ['t']).any (Value.isInstant ⟨1483228799, 1123900000⟩) := by
    decide +kernel
  obtain ⟨hreread, hlocates⟩ := rereads_datetimes "2017-01-01T05:29:60.1239+05:30".toList
    "/2017-01-01T05:29:60.1239+05:30".toList
  constructor
  · obtain ⟨t, text, ht, hencode, hagain⟩ := hreread _ hdecode
    obtain rfl := Value.datetime.inj ht
    rw [if_pos hshort] at hagain
    exact ⟨text, hdecode, hencode, hagain⟩
  · obtain ⟨p, hp, hsome⟩ := exists_of_any_toOption hsome
    obtain ⟨data, hdata, hsome⟩ := (Option.any_eq_true _ _).mp hsome
    obtain ⟨v, hget, hv⟩ := (Option.any_eq_true _ _).mp hsome
    obtain rfl := Value.isInstant_iff.mp hv
    obtain ⟨hregular, hparams⟩ := Pattern.isRegular_of_parse_datetime hp
    obtain ⟨path, hpath⟩ := hlocates ⟨[], p⟩ hregular data hdata
    have hyears : p.HasShortYears data.params := by
      rw [Pattern.HasShortYears, hparams]
      refine List.forall_mem_singleton.mpr fun v hv => ?_
      rw [hget] at hv
      exact Option.some.inj hv ▸ hshort
    have hbreaks : Reference.NoBreaks "/2017-01-01T05:29:60.1239+05:30".toList :=
      List.all_iff_forall_prop.mp (by decide +kernel)
    obtain ⟨location, hlocate⟩ := hpath.exists_iff.mpr ⟨hyears, hpath.noDots (.inr hbreaks)⟩
    obtain ⟨v, hv, hfound⟩ := (hpath.isTruncation location hlocate).params ⟨['t'], .datetime⟩
      (hparams ▸ List.mem_singleton_self _)
    rw [hget] at hv
    obtain rfl := Option.some.inj hv
    exact ⟨⟨[], p⟩, data, location, hp, hregular, hdata, hget, hlocate, hfound⟩

/-- A URL that decodes, to data without location. -/
theorem exists_noMatch {url again : Text}
    (h : (Pattern.parse "/{t:datetime}".toList).toOption.any fun p =>
      (p.decode url).any fun data => match locate ⟨[], p⟩ data with
        | .error e => e = .noMatch again
        | .ok _ => false) :
    ∃ r : Route, ∃ data, Pattern.parse "/{t:datetime}".toList = .ok r.pattern ∧
      r.pattern.IsRegular ∧ r.pattern.decode url = some data ∧
      r.locate data = .error (.noMatch again) := by
  obtain ⟨p, hp, h⟩ := exists_of_any_toOption h
  obtain ⟨data, hdata, h⟩ := (Option.any_eq_true _ _).mp h
  refine ⟨⟨[], p⟩, data, hp, (Pattern.isRegular_of_parse_datetime hp).1, hdata, ?_⟩
  cases hlocate : locate ⟨[], p⟩ data with
  | error e =>
    rw [hlocate] at h
    exact congrArg _ (of_decide_eq_true h)
  | ok location =>
    rw [hlocate] at h
    cases h

/-- The last second of the year 9999, an hour behind UTC, is an instant of the year 10000, whose
rendering is not read; nor is that of the day of a year before the year 0. -/
theorem exists_datetime_not_reread :
    (Decoder.datetime.decode "9999-12-31T23:59:59-01:00".toList =
        .ok (.datetime ⟨253402304399, 0⟩) ∧
      Decoder.datetime.encode (.datetime ⟨253402304399, 0⟩) =
        .ok "+10000-01-01T00:59:59.000Z".toList ∧
      Decoder.datetime.decode "+10000-01-01T00:59:59.000Z".toList =
        .error (.datetime "+10000-01-01T00:59:59.000Z".toList)) ∧
    (∃ r : Route, ∃ data, Pattern.parse "/{t:datetime}".toList = .ok r.pattern ∧
      r.pattern.IsRegular ∧ r.pattern.decode "/9999-12-31T23:59:59-01:00".toList = some data ∧
      r.locate data = .error (.noMatch "/%2B10000-01-01T00%3A59%3A59.000Z".toList)) ∧
    ∃ r : Route, ∃ data, Pattern.parse "/{t:datetime}".toList = .ok r.pattern ∧
      r.pattern.IsRegular ∧ r.pattern.decode "/-0001-02-03".toList = some data ∧
      r.locate data = .error (.noMatch "/-0001-02-03T00%3A00%3A00.000Z".toList) := by
  refine ⟨⟨?_, ?_, ?_⟩, exists_noMatch (by decide +kernel), exists_noMatch (by decide +kernel)⟩
  · have hparse : Instant.parse? "9999-12-31T23:59:59-01:00".toList = some ⟨253402304399, 0⟩ := by
      decide +kernel
    rw [Decoder.decode, Decoder.decodeDatetime, hparse]
  · have hrender : Instant.render ⟨253402304399, 0⟩ = "+10000-01-01T00:59:59.000Z".toList := by
      decide +kernel
    rw [Decoder.encode, hrender]
  · have hinstant : Instant.parse? "+10000-01-01T00:59:59.000Z".toList = none := by decide +kernel
    have hday : Date.parse? "+10000-01-01T00:59:59.000Z".toList = none := by decide +kernel
    rw [Decoder.decode, Decoder.decodeDatetime, hinstant, hday]

end Route
end Routing
