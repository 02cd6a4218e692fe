/-
# Locations that are settled

A location holds the data that its URL decodes to, and that data is rendered again.  The location
is settled when this gives its own URL, so that locating its data gives the location.  That is so
just if the values that it was made of were kept by their decoders (`Route.locate_again`).  Then
locations of a route with the same data have the same URL, so the URL tells whether a router is at
the location already.

The data of a location is kept, so a location of that data is settled.

Three steps are chained for every parameter: its value is encoded to a text, the text is decoded
again, and the new value is encoded.  That the last text is the first one is a matter of the
decoder alone (`Decoder.Keeps`), because separated parameters are read from the texts that they
were written to (`Token.Separated`).
-/

import Routing.Proofs.Decoder.Rewriting
import Routing.Proofs.Pattern.RoundTrip
import Routing.Proofs.RouteTable
import Routing.Proofs.Template.Derivation

namespace Routing

namespace Template

/-- A kind names a decoder that is built in. -/
theorem KindText.isBuiltIn {decoder : Decoder} {s : Text} (h : KindText decoder s) :
    decoder.IsBuiltIn := by
  induction h with
  | array _ _ _ _ ih => exact ih
  | string | boolean | integer | float | date | datetime => trivial

/-- The grammar has no decoders but those that are built in. -/
theorem Derives.isBuiltIn {s : Text} {tokens : List Token} (h : Derives s tokens) :
    ∀ param ∈ Token.params tokens, param.decoder.IsBuiltIn := by
  induction h with
  | nil => simp [Token.params]
  | literal _ _ _ ih => exact ih
  | param hparam _ ih =>
    refine List.forall_mem_cons.mpr ⟨?_, ih⟩
    cases hparam with
    | bare _ _ _ => trivial
    | typed _ _ _ _ hkind _ => exact hkind.isBuiltIn

end Template

/-- Such a decoder keeps the default matcher. -/
theorem Decoder.IsBuiltIn.matcher_eq {decoder : Decoder} (h : decoder.IsBuiltIn) :
    decoder.matcher = defaultMatcher := by
  cases decoder with
  | custom d => exact h.elim
  | string | boolean | integer | float | date | datetime | array => rfl

/-- The value that is given for the parameter, if there is one, is kept by its decoder. -/
def Param.Keeps (p : Param) (d : Dictionary Value) : Prop :=
  ∀ v, d.get? p.name = some v → p.decoder.Keeps v

namespace Pattern

/-- The values that are given for the parameters are kept. -/
def Keeps (p : Pattern) (d : Dictionary Value) : Prop := ∀ param ∈ p.params, param.Keeps d

variable {p : Pattern} {template : Text}

/-- A template has no decoders but those that are built in. -/
theorem isBuiltIn_of_parse (h : parse template = .ok p) :
    ∀ param ∈ p.params, param.decoder.IsBuiltIn := by
  obtain ⟨tokens, htokens, heq, -⟩ := exists_tokens_of_parse h
  rw [params, heq, Token.params_rooted, Token.params_join]
  exact (Template.derives_of_parse htokens).isBuiltIn

/-- A template keeps the default matchers. -/
theorem hasDefaultMatchers_of_parse (h : parse template = .ok p) : p.HasDefaultMatchers :=
  fun param hparam => (isBuiltIn_of_parse h param hparam).matcher_eq

/-- The texts of decoded data, in the order of the parameters. -/
theorem HasDefaultMatchers.exists_texts (h : p.HasDefaultMatchers)
    (hnames : (p.params.map Param.name).Nodup) {url : Text} {address : Address} {data : RouteData}
    (hurl : Address.read? url = some address) (hdecode : p.decode url = some data) :
    ∃ texts, Token.IsGreatestSplit p.tokens address.path texts ∧
      (∀ param r, (param, r) ∈ p.params.zip texts →
        ∃ value, param.DecodesTo r value ∧ data.params.get? param.name = some value) ∧
      data.search = address.search ∧ data.hash = address.hash := by
  obtain ⟨texts, values, hgreatest, hvalues, -⟩ := (h.decode_eq_some_iff hurl).mp hdecode
  have hdecodes : ∀ pair ∈ p.params.zip texts, ∃ value, pair.1.DecodesTo pair.2 value :=
    fun pair hpair => by
      obtain ⟨value, hvalue, -⟩ := exists_mem_zip hvalues hpair
      exact ⟨value, hvalue⟩
  obtain ⟨found, hfound, -, hget, hsearch, hhash⟩ :=
    (h.followsTokens hnames hurl).decoded texts hgreatest hdecodes
  rw [decode, hfound] at hdecode
  obtain rfl := Option.some.inj hdecode
  exact ⟨texts, hgreatest, hget, hsearch, hhash⟩

/-- The value of a parameter is written again. -/
theorem exists_encodeToken_again {d d' : Dictionary Value} {param : Param} {r : Text} {value : Value}
    (hdecoder : param.decoder.IsBuiltIn) (hencode : encodeToken d (.param param) = .ok r)
    (hdecode : param.DecodesTo r value) (hget : d'.get? param.name = some value) :
    (∃ r', encodeToken d' (.param param) = .ok r' ∧ (r' = r ↔ param.Keeps d)) ∧
      param.Keeps d' := by
  obtain ⟨v, s, hv, hs, rfl⟩ := encodeToken_eq_ok_iff.mp hencode
  obtain ⟨s', hs', hkeeps, hkept⟩ :=
    Decoder.exists_encode_again hdecoder hs (decodesTo_encodeText_iff.mp hdecode)
  have hgiven {d : Dictionary Value} {v : Value} (hv : d.get? param.name = some v) :
      param.Keeps d ↔ param.decoder.Keeps v := by
    rw [Param.Keeps, hv]
    exact ⟨fun h => h v rfl, by rintro h _ ⟨⟩; exact h⟩
  refine ⟨⟨encodeText s', encodeToken_eq_ok_iff.mpr ⟨value, s', hget, hs', rfl⟩, ?_⟩,
    (hgiven hget).mpr hkept⟩
  rw [encodeText_injective.eq_iff, hgiven hv]
  exact hkeeps

/-- **Data that was decoded from a rendered URL is rendered again**, to the same path just if the
values were kept. -/
theorem exists_encodePath_again (hparse : parse template = .ok p)
    (hseparated : Token.Separated p.tokens) {data found : RouteData} {path : Text}
    (hpath : p.encodePath data.params = .ok path)
    (hdecode : p.decode (withPath data path) = some found) :
    (∃ path', p.encodePath found.params = .ok path' ∧ (path' = path ↔ p.Keeps data.params)) ∧
      p.Keeps found.params ∧ found.search = data.search ∧ found.hash = data.hash := by
  obtain ⟨tokens, -, heq, hnames⟩ := exists_tokens_of_parse hparse
  have hdefault := hasDefaultMatchers_of_parse hparse
  have hcanonical : Address.IsCanonical path :=
    hdefault.isCanonical_of_decode (heq ▸ Token.isJoined_rooted (Token.isJoined_join tokens))
      (heq ▸ Token.rooted_eq_cons _) hpath hdecode
  have hread : Address.read? (withPath data path) = some ⟨path, data.search, data.hash⟩ :=
    Address.read?_render (a := ⟨path, data.search, data.hash⟩) hcanonical
  obtain ⟨texts, htexts, rfl⟩ := encodePath_eq_ok_iff.mp hpath
  obtain ⟨texts', hgreatest, hvalues, hsearch, hhash⟩ := hdefault.exists_texts hnames hread hdecode
  have hlength : texts.length = p.params.length := htexts.length_eq.symm
  have hslash := slash_not_mem_of_encodes htexts
  -- The path is split where it was put together.
  have hsplits := hgreatest.splits
  obtain rfl : texts = texts' := hseparated.fill_injective hlength hsplits.length_eq hslash
    (fun r hr => (hsplits.isText r hr).2) hsplits.eq_fill
  have hagain {param : Param} {r : Text} (hmem : (param, r) ∈ p.params.zip texts) :
      (∃ r', encodeToken found.params (.param param) = .ok r' ∧
        (r' = r ↔ param.Keeps data.params)) ∧ param.Keeps found.params := by
    obtain ⟨value, hvalue, hget⟩ := hvalues param r hmem
    exact exists_encodeToken_again (isBuiltIn_of_parse hparse param (List.of_mem_zip hmem).1)
      ((List.forall₂_iff_zip.mp htexts).2 hmem) hvalue hget
  obtain ⟨anew, hanew, hkeeps⟩ := exists_forall₂_eq_iff
    (List.forall₂_iff_zip.mpr ⟨htexts.length_eq, fun hmem => (hagain hmem).1⟩)
  refine ⟨⟨Token.fill p.tokens anew, encodePath_eq_ok_iff.mpr ⟨anew, hanew, rfl⟩, ?_⟩,
    fun param hparam => ?_, hsearch, hhash⟩
  · refine Iff.trans ⟨fun h => ?_, fun h => congrArg _ h⟩ hkeeps
    exact hseparated.fill_injective hanew.length_eq.symm hlength
      (slash_not_mem_of_encodes hanew) hslash h
  · obtain ⟨r, -, hmem⟩ := exists_mem_zip htexts hparam
    exact (hagain hmem).2

/-- The URL of data with a path is told by the path. -/
theorem withPath_eq_iff {data data' : RouteData} (hsearch : data'.search = data.search)
    (hhash : data'.hash = data.hash) {path path' : Text} :
    withPath data' path' = withPath data path ↔ path' = path := by
  have hrender (path : Text) :
      withPath data' path = path ++ Address.afterPath ⟨[], data.search, data.hash⟩ := by
    rw [withPath, Address.render_eq, hsearch, hhash]
    rfl
  have hrender' : withPath data path = path ++ Address.afterPath ⟨[], data.search, data.hash⟩ :=
    Address.render_eq _
  rw [hrender, hrender']
  exact List.append_left_inj _

end Pattern

namespace Route

variable {r : Route} {template : Text} {data : RouteData} {location : Location}

/-- The data of a location is rendered again. -/
theorem exists_rendered_again (hparse : Pattern.parse template = .ok r.pattern)
    (hseparated : Token.Separated r.pattern.tokens) (hlocate : r.locate data = .ok location) :
    (∃ url, r.pattern.encode location.data = .ok url ∧
      (url = location.fullPath ↔ r.pattern.Keeps data.params)) ∧
    (r.locate location.data = .ok location ↔ r.pattern.Keeps data.params) ∧
    r.pattern.Keeps location.data.params := by
  obtain ⟨path, found, hpath, hfound, rfl⟩ := locate_eq_ok_iff.mp hlocate
  obtain ⟨⟨path', hpath', hkeeps⟩, hkept, hsearch, hhash⟩ :=
    Pattern.exists_encodePath_again hparse hseparated hpath hfound
  have hurl (path' : Text) : Pattern.withPath found path' = Pattern.withPath data path' :=
    (Pattern.withPath_eq_iff hsearch hhash).mpr rfl
  refine ⟨⟨Pattern.withPath found path', ?_, ?_⟩, ⟨fun h => ?_, fun h => ?_⟩, hkept⟩
  · rw [Pattern.encode, hpath']
    rfl
  · rw [← hkeeps]
    exact Pattern.withPath_eq_iff hsearch hhash
  · -- A location that is found again has the path that its data is rendered to.
    obtain ⟨again, _, hagain, -, heq⟩ := locate_eq_ok_iff.mp h
    rw [hpath'] at hagain
    rw [← hkeeps, Except.ok.inj hagain]
    exact (Location.mk.inj heq).2.1.symm
  · obtain rfl := hkeeps.mpr h
    exact locate_eq_ok_iff.mpr ⟨path', found, hpath', by rw [hurl, hfound], by rw [hurl]⟩

/-- **A location is the rendering of its own data** just if the values that it was made of were
kept.  Then locating its data gives it again, and the locations of the route with its data, made of
values that were kept, have its URL.  The data of a location is kept. -/
theorem locate_again (hparse : Pattern.parse template = .ok r.pattern)
    (hseparated : Token.Separated r.pattern.tokens) (hlocate : r.locate data = .ok location) :
    (∃ url, r.pattern.encode location.data = .ok url ∧
      (url = location.fullPath ↔ r.pattern.Keeps data.params)) ∧
    (r.locate location.data = .ok location ↔ r.pattern.Keeps data.params) ∧
    (r.pattern.Keeps data.params → ∀ data' location', r.pattern.Keeps data'.params →
      r.locate data' = .ok location' → location'.data = location.data →
      location'.fullPath = location.fullPath) ∧
    r.pattern.Keeps location.data.params := by
  obtain ⟨hrendered, hagain, hkept⟩ := exists_rendered_again hparse hseparated hlocate
  refine ⟨hrendered, hagain, fun hkeeps data' location' hkeeps' hlocate' hdata => ?_, hkept⟩
  obtain ⟨-, hagain', -⟩ := exists_rendered_again hparse hseparated hlocate'
  have hsame := hagain'.mpr hkeeps'
  rw [hdata, hagain.mpr hkeeps] at hsame
  rw [Except.ok.inj hsame]

/-- An integer for a float, and floats without fraction in a list of integers. -/
theorem locate_again_numbers :
    ∃ r : Route, ∃ location : Location,
      Pattern.parse "/{x:float}/{y:array<integer>}".toList = .ok r.pattern ∧
      r.locate ⟨.ofList [(['x'], .integer 7), (['y'], .array [.integer (-2), .float (.ofInt 3)])],
        .empty, []⟩ = .ok location ∧
      location.fullPath = "/7/%5B%22-2%22%2C%223%22%5D".toList ∧
      r.locate location.data = .ok location := by
  have hsome : (Pattern.parse "/{x:float}/{y:array<integer>}".toList).toOption.any fun p =>
      (Route.locate ⟨[], p⟩ ⟨.ofList [(['x'], .integer 7),
        (['y'], .array [.integer (-2), .float (.ofInt 3)])], .empty, []⟩).toOption.any
          fun location => location.fullPath = "/7/%5B%22-2%22%2C%223%22%5D".toList := by
    decide +kernel
  obtain ⟨p, hparse, hsome⟩ := exists_of_any_toOption hsome
  obtain ⟨location, hlocate, hpath⟩ := exists_of_any_toOption hsome
  have htokens : p.tokens = [.literal ['/'], .param ⟨['x'], .float⟩, .literal ['/'],
      .param ⟨['y'], .array .integer⟩] := Pattern.tokens_of_parse hparse rfl
  have hseparated : Token.Separated p.tokens := by
    simp [htokens, Token.Separated, Token.SlashFirst]
  refine ⟨⟨[], p⟩, location, hparse, hlocate, of_decide_eq_true hpath,
    (locate_again hparse hseparated hlocate).2.1.mpr ?_⟩
  have hx : Param.Keeps ⟨['x'], .float⟩ (.ofList [(['x'], .integer 7),
      (['y'], .array [.integer (-2), .float (.ofInt 3)])]) := by
    rintro _ ⟨⟩
    exact Decoder.keeps_integer_of_lt (by decide)
  have hy : Param.Keeps ⟨['y'], .array .integer⟩ (.ofList [(['x'], .integer 7),
      (['y'], .array [.integer (-2), .float (.ofInt 3)])]) := by
    have hthree : Binary64.ofInt 3 ≠ Binary64.zero true := by decide +kernel
    rintro _ ⟨⟩
    exact List.forall_mem_cons.mpr ⟨trivial, List.forall_mem_cons.mpr ⟨hthree, by simp⟩⟩
  rw [Pattern.Keeps, Pattern.params, htokens]
  exact List.forall_mem_cons.mpr ⟨hx, List.forall_mem_cons.mpr ⟨hy, by simp⟩⟩

/-- The URL of a location, and the one that its data is rendered to. -/
theorem exists_urls (tokens : List Token) {url again : Text}
    (htokens : (Template.parse template).toOption.map (Token.rooted ∘ Token.join) = some tokens)
    (hseparated : Token.Separated tokens)
    (h : (Pattern.parse template).toOption.any fun p =>
      (locate ⟨[], p⟩ data).toOption.any fun location => location.fullPath = url ∧
        (p.encode location.data).toOption = some again) :
    ∃ r : Route, ∃ location, Pattern.parse template = .ok r.pattern ∧
      Token.Separated r.pattern.tokens ∧ r.locate data = .ok location ∧
      location.fullPath = url ∧ r.pattern.encode location.data = .ok again := by
  obtain ⟨p, hparse, h⟩ := exists_of_any_toOption h
  obtain ⟨location, hlocate, h⟩ := exists_of_any_toOption h
  obtain ⟨hurl, hagain⟩ := of_decide_eq_true h
  obtain rfl := Pattern.tokens_of_parse hparse htokens
  exact ⟨⟨[], p⟩, location, hparse, hseparated, hlocate, hurl, toOption_eq_some_iff.mp hagain⟩

/-- The smallest integer that is no float is given for a float, and the negative zero for an
integer.  The data of the location is rendered to another URL. -/
theorem exists_locate_not_again :
    (∃ r : Route, ∃ location, Pattern.parse "/{x:float}".toList = .ok r.pattern ∧
      Token.Separated r.pattern.tokens ∧
      r.locate ⟨.ofList [(['x'], .integer 9007199254740993)], .empty, []⟩ = .ok location ∧
      location.fullPath = "/9007199254740993".toList ∧
      r.pattern.encode location.data = .ok "/9007199254740992".toList) ∧
    ∃ r : Route, ∃ location, Pattern.parse "/{x:integer}".toList = .ok r.pattern ∧
      Token.Separated r.pattern.tokens ∧
      r.locate ⟨.ofList [(['x'], .float (.zero true))], .empty, []⟩ = .ok location ∧
      location.fullPath = "/-0".toList ∧ r.pattern.encode location.data = .ok "/0".toList := by
  constructor
  · exact exists_urls [.literal ['/'], .param ⟨['x'], .float⟩] rfl ⟨trivial, trivial⟩
      (by decide +kernel)
  · exact exists_urls [.literal ['/'], .param ⟨['x'], .integer⟩] rfl ⟨trivial, trivial⟩
      (by decide +kernel)

end Route
end Routing
