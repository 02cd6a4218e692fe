/-
# Reloading

The URL of a location is decoded by the route of the location, to the data of the location.  So a
plain table resolves it again, to the same location unless another route comes first
(`IsPlain.resolve_fullPath`).  That route did not decode the URL which led to the location:
literals are matched as they are written, and a value may be written in its location as a literal
is (`exists_resolve_fullPath_ne`).

A route that comes first stands before the other in the order in which routes are tried
(`IsAt.step`).  Every reload that changes the location moves towards the front, so reloading comes
to rest in fewer rounds than there are routes (`IsPlain.exists_settled`).
-/

import Mathlib.Data.List.Nodup
import Routing.Proofs.RouteTable.Winner

namespace Routing

/-- What a plain route decodes is the data of the location that it leads to. -/
theorem Route.locate_of_decode {r : Route} {url : Text} {data : RouteData} {location : Location}
    (h : r.pattern.IsPlain) (hdecode : r.pattern.decode url = some data)
    (hlocate : r.locate data = .ok location) :
    location.name = r.name ∧ location.data = data := by
  cases hurl : Address.read? url with
  | none =>
    rw [Pattern.decode, Pattern.tryDecode, hurl] at hdecode
    cases hdecode
  | some address =>
    obtain ⟨path, hpath⟩ := h.exists_encoded hurl hdecode
    obtain ⟨path', found, hpath', hfound, rfl⟩ := Route.locate_eq_ok_iff.mp hlocate
    obtain rfl := Except.ok.inj (hpath.encodePath.symm.trans hpath')
    have hagain := hpath.decode (h.isCanonical_of_decode hpath' hfound)
    exact ⟨rfl, Option.some.inj (hfound.symm.trans hagain)⟩

/-- The query and the fragment of a URL are those of what it is decoded to. -/
theorem Pattern.decode_withPath {p : Pattern} (h : p.HasDefaultMatchers) {path : Text}
    {data found : RouteData} (hcanonical : Address.IsCanonical path)
    (hdecode : p.decode (withPath data path) = some found) :
    found.search = data.search ∧ found.hash = data.hash := by
  have hread := Address.read?_render (a := ⟨path, data.search, data.hash⟩) hcanonical
  obtain ⟨texts, values, -, -, rfl⟩ := (h.decode_eq_some_iff hread).mp hdecode
  exact ⟨rfl, rfl⟩

namespace RouteTable

variable {t : RouteTable} {strategy : MatchStrategy} {url : Text} {r : Route} {data : RouteData}
  {location : Location} {before : List Route}

/-- The location is one of the route, whose place is behind the routes `before` in the order in
which routes are tried. -/
structure IsAt (t : RouteTable) (strategy : MatchStrategy) (before : List Route) (r : Route)
    (location : Location) : Prop where
  /-- The place of the route. -/
  place : ∃ after, t.candidates strategy = before ++ r :: after
  /-- The location has the name of the route. -/
  name : location.name = r.name
  /-- The route decodes the URL of the location to its data. -/
  decode : r.pattern.decode location.fullPath = some location.data
  /-- The route locates the data there. -/
  locate : r.locate location.data = .ok location

/-- What has a place among the candidates is a route of the table. -/
theorem mem_of_place {after : List Route} (h : t.candidates strategy = before ++ r :: after) :
    r ∈ t.routes := by
  rw [← @mem_candidates t strategy, h]
  simp

/-- The route of a place is one of the table. -/
theorem IsAt.mem (h : t.IsAt strategy before r location) : r ∈ t.routes := by
  obtain ⟨after, hplace⟩ := h.place
  exact mem_of_place hplace

/-- Where the first route that decodes a URL leads to. -/
theorem IsPlain.isAt_of_resolve (h : t.IsPlain)
    (hresolve : t.resolve url strategy = .ok (some location)) :
    ∃ before r, t.IsAt strategy before r location ∧ t.IsWinner strategy url r ∧
      ∀ other ∈ before, ¬Decodes url other := by
  unfold resolve at hresolve
  split at hresolve
  case h_1 => cases hresolve
  case h_2 r data hfirst =>
    obtain ⟨hdecode, before, after, hplace, hbefore⟩ := firstDecoding_eq_some_iff.mp hfirst
    have hplain : r.pattern.IsPlain := h r (mem_of_place hplace)
    cases hlocate : r.locate data with
    | error e =>
      rw [hlocate] at hresolve
      cases hresolve
    | ok found =>
      rw [hlocate] at hresolve
      obtain rfl : found = location := Option.some.inj (Except.ok.inj hresolve)
      obtain ⟨hname, rfl⟩ := Route.locate_of_decode hplain hdecode hlocate
      obtain ⟨-, hagain⟩ := Route.isCanonicalUrl_of_locate hplain hlocate
      exact ⟨before, r, ⟨⟨after, hplace⟩, hname, hagain, hlocate⟩,
        (firstDecoding_candidates_eq_some_iff.mp hfirst).1, hbefore⟩

/-- A route that decodes a URL is the first one that does, or stands behind it. -/
theorem exists_first {routes after : List Route} (hroutes : routes = before ++ r :: after)
    (hdecodes : Decodes url r) :
    ∃ first data front back, firstDecoding url routes = some (first, data) ∧
      routes = front ++ first :: back ∧
      (first = r ∨ first ∈ before ∧ front.length < before.length) := by
  cases hfirst : firstDecoding url routes with
  | none => exact absurd hdecodes (firstDecoding_eq_none_iff.mp hfirst r (hroutes ▸ by simp))
  | some found =>
    obtain ⟨first, data⟩ := found
    obtain ⟨-, front, back, heq, hfront⟩ := firstDecoding_eq_some_iff.mp hfirst
    refine ⟨first, data, front, back, rfl, heq, ?_⟩
    rcases List.append_eq_append_iff.mp (hroutes.symm.trans heq) with
      ⟨between, hbetween, hrest⟩ | ⟨between, hbetween, hrest⟩
    · -- The routes before the first one do not decode the URL, so `r` is none of them.
      cases between with
      | nil => exact .inl (List.cons.inj hrest).1.symm
      | cons other between =>
        obtain rfl : r = other := (List.cons.inj hrest).1
        exact absurd hdecodes (hfront r (hbetween ▸ by simp))
    · cases between with
      | nil => exact .inl (List.cons.inj hrest).1
      | cons other between =>
        obtain rfl : first = other := (List.cons.inj hrest).1
        exact .inr ⟨hbetween ▸ by simp, by simp [hbetween]⟩

/-- **A reload stays at the location or moves to a route that is tried before.**  So reloading comes
to rest, as there are only so many routes in front (`IsAt.exists_settled`). -/
theorem IsAt.step (h : t.IsPlain) (hat : t.IsAt strategy before r location) :
    ∃ front first found, t.resolve location.fullPath strategy = .ok (some found) ∧
      t.IsAt strategy front first found ∧ t.IsWinner strategy location.fullPath first ∧
      (found.data.search = location.data.search ∧ found.data.hash = location.data.hash) ∧
      (first = r ∧ found = location ∨ first ∈ before ∧ front.length < before.length) := by
  obtain ⟨after, hplace⟩ := hat.place
  -- The route of the location decodes its URL, so the first one that does is this one or is tried
  -- before it.
  obtain ⟨first, data, front, back, hfirst, heq, hcases⟩ :=
    exists_first hplace ⟨_, hat.decode⟩
  obtain ⟨hwinner, hdecode⟩ := firstDecoding_candidates_eq_some_iff.mp hfirst
  have hplain : first.pattern.IsPlain := h first (mem_of_place heq)
  obtain ⟨hurl, -⟩ := Route.isCanonicalUrl_of_locate (h r hat.mem) hat.locate
  obtain ⟨found, hlocate⟩ := Route.exists_locate hplain hurl hdecode
  obtain ⟨hname, rfl⟩ := Route.locate_of_decode hplain hdecode hlocate
  obtain ⟨-, hagain⟩ := Route.isCanonicalUrl_of_locate hplain hlocate
  have hresolve : t.resolve location.fullPath strategy = .ok (some found) := by
    rw [hwinner.resolve_eq hdecode, hlocate]
    rfl
  have hkept : found.data.search = location.data.search ∧
      found.data.hash = location.data.hash := by
    obtain ⟨path, _, hpath, hfound, hlocation⟩ := Route.locate_eq_ok_iff.mp hat.locate
    have hcanonical := (h r hat.mem).isCanonical_of_decode hpath hfound
    rw [congrArg Location.fullPath hlocation] at hdecode
    exact Pattern.decode_withPath hplain.hasDefaultMatchers hcanonical hdecode
  refine ⟨front, first, found, hresolve, ⟨⟨back, heq⟩, hname, hagain, hlocate⟩, hwinner, hkept, ?_⟩
  rcases hcases with rfl | hmoved
  · -- The same route decodes the URL to the same data, and locates them at the same place.
    have hdata : found.data = location.data := Option.some.inj (hdecode.symm.trans hat.decode)
    rw [hdata, hat.locate] at hlocate
    exact .inl ⟨rfl, (Except.ok.inj hlocate).symm⟩
  · exact .inr hmoved

/-- **The URL of a location leads back to the location unless another route wins it.**  Its own
route decodes it, so it is resolved in any case.  Another route that wins it did not decode the
URL that led to the location. -/
theorem IsPlain.resolve_fullPath (h : t.IsPlain)
    (hresolve : t.resolve url strategy = .ok (some location)) :
    ∃ r first found, t.IsWinner strategy url r ∧ location.name = r.name ∧
      r.pattern.decode location.fullPath = some location.data ∧
      t.IsWinner strategy location.fullPath first ∧ found.name = first.name ∧
      t.resolve location.fullPath strategy = .ok (some found) ∧
      (found.data.search = location.data.search ∧ found.data.hash = location.data.hash) ∧
      (found = location ↔ first = r) ∧ (first ≠ r → ¬Decodes url first) := by
  obtain ⟨before, r, hat, hwinner, hbefore⟩ := h.isAt_of_resolve hresolve
  obtain ⟨front, first, found, hagain, hfound, hfirst, hkept, hcases⟩ := hat.step h
  refine ⟨r, first, found, hwinner, hat.name, hat.decode, hfirst, hfound.name, hagain, hkept, ?_, ?_⟩
  · constructor
    · intro heq
      exact eq_of_name_eq hfound.mem hat.mem (hfound.name.symm.trans (heq ▸ hat.name))
    · rintro rfl
      rcases hcases with ⟨-, heq⟩ | ⟨hmem, -⟩
      · exact heq
      · -- The winner of the first URL is not among the routes before it.
        exact absurd hwinner.1 (hbefore first hmem)
  · intro hne
    rcases hcases with ⟨heq, -⟩ | ⟨hmem, -⟩
    · exact absurd heq hne
    · exact hbefore first hmem

/-- A table of the literal that false is written as, and a boolean. -/
def flags? : Option RouteTable :=
  (Pattern.parse "/false".toList).toOption.bind fun literal =>
    (Pattern.parse "/{b:boolean}".toList).toOption.bind fun flag =>
      ([⟨"off".toList, literal⟩, ⟨"flag".toList, flag⟩].foldlM insert empty).toOption

/-- Such a table is plain. -/
theorem isPlain_of_flags? (h : flags? = some t) : t.IsPlain := by
  obtain ⟨literal, hliteral, h⟩ := Option.bind_eq_some_iff.mp h
  obtain ⟨flag, hflag, h⟩ := Option.bind_eq_some_iff.mp h
  rw [toOption_eq_some_iff] at hliteral hflag h
  refine isPlain_of_foldlM_insert isPlain_empty (fun r hr => ?_) h
  rcases List.mem_cons.mp hr with rfl | hr
  · refine Pattern.isPlain_of_parse [.literal "/false".toList] hliteral rfl ?_ ?_ ?_
    · simp
    · trivial
    · simp [Token.params, Token.param?]
  · obtain rfl := List.mem_singleton.mp hr
    refine Pattern.isPlain_of_parse [.literal ['/'], .param ⟨['b'], .boolean⟩] hflag rfl ?_ ?_ ?_
    · simp
    · simp [Token.Separated, Token.SlashFirst]
    · simp [Token.params, Token.param?, Decoder.IsPlain]

/-- Every word but one is read as false, whose URL the literal wins; the query and the fragment
stay. -/
theorem IsPlain.resolve_fullPath_flags :
    ∃ t : RouteTable, ∃ location first found, t.IsPlain ∧
      t.resolve "/no?k#h".toList .firstMatch = .ok (some location) ∧
      t.IsWinner .firstMatch location.fullPath first ∧
      t.resolve location.fullPath .firstMatch = .ok (some found) ∧
      found.data.search = location.data.search ∧ found.data.hash = location.data.hash := by
  have hany : flags?.any fun t =>
      (t.resolve "/no?k#h".toList .firstMatch).toOption.any Option.isSome := by decide +kernel
  obtain ⟨t, ht, hany⟩ := (Option.any_eq_true _ _).mp hany
  obtain ⟨resolved, hresolve, hsome⟩ := exists_of_any_toOption hany
  obtain ⟨location, rfl⟩ := Option.isSome_iff_exists.mp hsome
  have hplain := isPlain_of_flags? ht
  obtain ⟨r, first, found, -, -, -, hwinner, -, hagain, hkept, -⟩ :=
    IsPlain.resolve_fullPath hplain hresolve
  exact ⟨t, location, first, found, hplain, hresolve, hwinner, hagain, hkept⟩

/-- The URL of a location may lead to another location. -/
theorem exists_resolve_fullPath_ne :
    ∃ t : RouteTable, ∃ location found, t.IsPlain ∧
      t.resolve "/no".toList .firstMatch = .ok (some location) ∧
      t.resolve location.fullPath .firstMatch = .ok (some found) ∧
      found.name ≠ location.name := by
  have hany : flags?.any fun t =>
      (t.resolve "/no".toList .firstMatch).toOption.any fun location? =>
        location?.any fun location =>
          (t.resolve location.fullPath .firstMatch).toOption.any fun found? =>
            found?.any fun found => found.name != location.name := by decide +kernel
  obtain ⟨t, ht, hany⟩ := (Option.any_eq_true _ _).mp hany
  obtain ⟨location?, hresolve, hlocation⟩ := exists_of_any_toOption hany
  obtain ⟨location, rfl, hlocation⟩ := (Option.any_eq_true _ _).mp hlocation
  obtain ⟨found?, hagain, hfound⟩ := exists_of_any_toOption hlocation
  obtain ⟨found, rfl, hne⟩ := (Option.any_eq_true _ _).mp hfound
  exact ⟨t, location, found, isPlain_of_flags? ht, hresolve, hagain, bne_iff_ne.mp hne⟩

/-- Resolves the URL of a location, and then the one of the location found, `n` times in all. -/
def reload (t : RouteTable) (strategy : MatchStrategy) :
    Nat → Location → Except NavigationError (Option Location)
  | 0, location => .ok (some location)
  | n + 1, location =>
    match t.resolve location.fullPath strategy with
    | .ok (some found) => reload t strategy n found
    | other => other

/-- One reload is followed by the others. -/
theorem reload_succ {found : Location} (n : Nat)
    (h : t.resolve location.fullPath strategy = .ok (some found)) :
    t.reload strategy (n + 1) location = t.reload strategy n found := by
  rw [reload, h]

/-- Reloading comes to rest after as many rounds as there are routes in front. -/
theorem IsAt.exists_settled (h : t.IsPlain) (hat : t.IsAt strategy before r location) :
    ∃ n ≤ before.length, ∃ final, t.reload strategy n location = .ok (some final) ∧
      t.resolve final.fullPath strategy = .ok (some final) ∧
      final.data.search = location.data.search ∧ final.data.hash = location.data.hash := by
  induction hlength : before.length using Nat.strongRecOn generalizing before r location with
  | ind length ih =>
    obtain ⟨front, first, found, hresolve, hfound, -, ⟨hsearch, hhash⟩, hcases⟩ := hat.step h
    -- Either nothing changes, or the next route stands further in front, and the hypothesis applies
    -- to it.
    rcases hcases with ⟨-, rfl⟩ | ⟨-, hlt⟩
    · exact ⟨0, Nat.zero_le _, found, rfl, hresolve, rfl, rfl⟩
    · obtain ⟨n, hn, final, hreload, hfinal, hsearch', hhash'⟩ :=
        ih front.length (hlength ▸ hlt) hfound rfl
      refine ⟨n + 1, by omega, final, ?_, hfinal, hsearch'.trans hsearch, hhash'.trans hhash⟩
      rw [reload_succ n hresolve, hreload]

/-- As many routes are tried at most as there are in the table. -/
theorem length_candidates (t : RouteTable) (strategy : MatchStrategy) :
    (t.candidates strategy).length = t.routes.length := by
  cases strategy with
  | firstMatch => rfl
  | ranked => exact List.length_mergeSort _

/-- **Reloading comes to rest in fewer rounds than there are routes**, with the query and the
fragment of the first location. -/
theorem IsPlain.exists_settled (h : t.IsPlain)
    (hresolve : t.resolve url strategy = .ok (some location)) :
    ∃ n < t.routes.length, ∃ final, t.reload strategy n location = .ok (some final) ∧
      t.resolve final.fullPath strategy = .ok (some final) ∧
      final.data.search = location.data.search ∧ final.data.hash = location.data.hash := by
  obtain ⟨before, r, hat, -, -⟩ := h.isAt_of_resolve hresolve
  obtain ⟨after, hplace⟩ := hat.place
  have hlength := congrArg List.length hplace
  rw [length_candidates, List.length_append, List.length_cons] at hlength
  obtain ⟨n, hn, hsettled⟩ := hat.exists_settled h
  exact ⟨n, by omega, hsettled⟩

end RouteTable
end Routing
