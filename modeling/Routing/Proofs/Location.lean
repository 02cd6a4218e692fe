/-
# Locations are canonical

A route whose parameters keep the default matcher may have any literals, any decoders and several
parameters in one segment.  What it locates is canonical all the same
(`Route.isCanonical_of_locate`): locating decodes what it rendered, and a literal or a value that
became a host, a dot segment, a query or a fragment would not be decoded again.
-/

import Routing.Proofs.History

namespace Routing

/-- A location of a route with data whose URL is read as it is written: its path begins with one
slash, and no segment of it is a dot segment. -/
structure Location.IsCanonical (location : Location) (r : Route) (data : RouteData) : Prop
    extends Address.IsCanonical location.path where
  /-- The URL is read as the path with the search and the hash of the data. -/
  read : Address.read? location.fullPath = some ⟨location.path, data.search, data.hash⟩
  /-- The search is the one of the data. -/
  search : location.data.search = data.search
  /-- The hash is the one of the data. -/
  hash : location.data.hash = data.hash
  /-- The parameters are those of the pattern. -/
  keys : ∀ name, name ∈ location.data.params.keys ↔ name ∈ r.pattern.params.map Param.name
  /-- A history of segments records the URL as it is. -/
  pushed : ∀ h : History, h.current.IsMemory →
    (h.push location.fullPath).currentPath = location.fullPath

/-- The parameters of decoded data are those of the pattern. -/
theorem Pattern.HasDefaultMatchers.mem_keys_of_decode {p : Pattern} (h : p.HasDefaultMatchers)
    {url : Text} {data : RouteData} (hdecode : p.decode url = some data) (name : Text) :
    name ∈ data.params.keys ↔ name ∈ p.params.map Param.name := by
  cases hurl : Address.read? url with
  | none =>
    rw [Pattern.decode, Pattern.tryDecode, hurl] at hdecode
    cases hdecode
  | some address =>
    obtain ⟨texts, values, hgreatest, hvalues, rfl⟩ := (h.decode_eq_some_iff hurl).mp hdecode
    have hlength : texts.length = p.params.length := hgreatest.splits.length_eq
    have hlength' : values.length = p.params.length := by
      rw [← hvalues.length_eq, List.length_zip, hlength, Nat.min_self]
    rw [Pattern.named, Dictionary.mem_keys_ofList, List.map_fst_zip (by simp [hlength'])]

namespace Route

variable {r : Route} {data : RouteData} {location : Location}

/-- **What a route with default matchers locates is canonical.**  The path begins with one slash and
has no dot segment, splitting it gives exactly the path, the search and the hash that the location
holds, and the values are those of the parameters and of nothing else.  Decoders that a caller
brings are among those that are meant: only their matcher has to be the default one, as the text
they give is escaped before it comes into the path. -/
theorem isCanonical_of_locate {segments : List Segment}
    (hcompile : Pattern.compile segments = .ok r.pattern)
    (hmatchers : Token.HasDefaultMatchers (segments.flatMap Segment.tokens))
    (hlocate : r.locate data = .ok location) : location.IsCanonical r data := by
  obtain ⟨htokens, -⟩ := Pattern.ofTokens_eq_ok hcompile
  have hdefault : r.pattern.HasDefaultMatchers := by
    rwa [Pattern.HasDefaultMatchers, Token.HasDefaultMatchers, htokens, Pattern.params_rooted_join]
  have hjoined : Token.IsJoined r.pattern.tokens :=
    htokens ▸ Token.isJoined_rooted (Token.isJoined_join _)
  have hrooted : ∃ s rest, r.pattern.tokens = .literal ('/' :: s) :: rest :=
    htokens ▸ Token.rooted_eq_cons _
  obtain ⟨path, found, hpath, hfound, rfl⟩ := locate_eq_ok_iff.mp hlocate
  have hcanonical : Address.IsCanonical path :=
    hdefault.isCanonical_of_decode hjoined hrooted hpath hfound
  have hread : Address.read? (Pattern.withPath data path) = some ⟨path, data.search, data.hash⟩ :=
    Address.read?_render (a := ⟨path, data.search, data.hash⟩) hcanonical
  obtain ⟨texts, values, -, -, heq⟩ := (hdefault.decode_eq_some_iff hread).mp hfound
  exact {
    toIsCanonical := hcanonical
    read := hread
    search := by rw [heq]
    hash := by rw [heq]
    keys := hdefault.mem_keys_of_decode hfound
    pushed := fun h hcurrent => (History.records_push hcurrent ⟨_, hcanonical, rfl⟩).current }

/-- Two parameters in one segment behind a literal with a dot segment and an escaped slash. -/
theorem isCanonical_of_locate_adjacent :
    ∃ r : Route, ∃ location : Location,
      Pattern.compile [.literal "a/..b%2F".toList, .param ⟨['x'], .string⟩,
        .param ⟨['y'], .integer⟩] = .ok r.pattern ∧
      r.locate ⟨.ofList [(['x'], .string ['?']), (['y'], .integer 7)], .ofList [(['k'], ['v'])],
        ['#']⟩ = .ok location ∧
      location.IsCanonical r ⟨.ofList [(['x'], .string ['?']), (['y'], .integer 7)],
        .ofList [(['k'], ['v'])], ['#']⟩ := by
  have hsome : (Pattern.compile [.literal "a/..b%2F".toList, .param ⟨['x'], .string⟩,
      .param ⟨['y'], .integer⟩]).toOption.any fun p =>
      (Route.locate ⟨[], p⟩ ⟨.ofList [(['x'], .string ['?']), (['y'], .integer 7)],
        .ofList [(['k'], ['v'])], ['#']⟩).toOption.any fun _ => true := by decide +kernel
  obtain ⟨p, hcompile, hsome⟩ := exists_of_any_toOption hsome
  obtain ⟨location, hlocate, -⟩ := exists_of_any_toOption hsome
  have hmatchers : ∀ p ∈ [Param.mk ['x'] .string, Param.mk ['y'] .integer],
      p.decoder.matcher = defaultMatcher := by simp [Decoder.matcher]
  exact ⟨⟨[], p⟩, location, hcompile, hlocate, isCanonical_of_locate hcompile hmatchers hlocate⟩

end Route
end Routing
