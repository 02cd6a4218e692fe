/-
# The route that a URL goes to

Of the routes that decode a URL, one wins (`IsWinner`): the one that was registered first, or the
first one of those with the greatest rank.  Trying the routes in order finds the winner and no
other route, for sorting by rank keeps the order of routes with the same rank
(`firstDecoding_candidates_eq_some_iff`).

A plain table resolves a URL to the location of the winner (`IsPlain.resolve_winner`).  That
fails only if the URL that the winner encodes its data to has a dot segment, which takes the URL
of a file with a line break in it (`exists_resolve_eq_noMatch`).

The order of two routes is expressed by a sublist `[a, b]`.  That a merge sort is stable then says
that such pairs are kept, unless the second has the greater rank; and as no route occurs twice, a
pair in one order excludes the pair in the other (`not_sublist_swap`).
-/

import Routing.Proofs.RouteTable

namespace Routing
namespace RouteTable

variable {t : RouteTable} {strategy : MatchStrategy} {url : Text} {r : Route} {data : RouteData}

/-- The pattern of the route decodes the URL. -/
def Decodes (url : Text) (r : Route) : Prop := ∃ data, r.pattern.decode url = some data

/-- The route has a greater rank than another one, where ranks count. -/
def Outranks (strategy : MatchStrategy) (r other : Route) : Prop :=
  strategy = .ranked ∧ other.pattern.rank < r.pattern.rank

/-- The route decodes the URL, it outranks the routes before it that do, and none behind it that
does outranks it.  Where ranks do not count, no route before it decodes the URL. -/
def IsWinner (t : RouteTable) (strategy : MatchStrategy) (url : Text) (r : Route) : Prop :=
  Decodes url r ∧ ∃ before after, t.routes = before ++ r :: after ∧
    (∀ other ∈ before, Decodes url other → Outranks strategy r other) ∧
    ∀ other ∈ after, Decodes url other → ¬Outranks strategy other r

/-- No route occurs twice in a table, as no name does. -/
theorem nodup_routes (t : RouteTable) : t.routes.Nodup :=
  List.Pairwise.of_map Route.name (fun _ _ hne heq => hne (heq ▸ rfl)) t.namesDistinct

/-- What stands before an element of a list without repetitions comes in front of it. -/
theorem mem_of_pair_sublist {α : Type} {a b : α} {before after : List α}
    (hnodup : (before ++ b :: after).Nodup) (h : List.Sublist [a, b] (before ++ b :: after)) :
    a ∈ before := by
  obtain ⟨-, hcons, -⟩ := List.nodup_append.mp hnodup
  have hb : b ∉ after := (List.nodup_cons.mp hcons).1
  obtain ⟨front, back, heq, hfront, hback⟩ := List.sublist_append_iff.mp h
  cases front with
  | cons c front =>
    obtain rfl : a = c := (List.cons.inj heq).1
    exact hfront.subset List.mem_cons_self
  | nil =>
    obtain rfl : [a, b] = back := heq
    have htail := List.Sublist.tail hback
    exact absurd (htail.subset List.mem_cons_self) hb

/-- Of a list without repetitions, no two elements follow each other both ways round. -/
theorem not_sublist_swap {α : Type} {a b : α} {l : List α} (hnodup : l.Nodup)
    (h : List.Sublist [a, b] l) : ¬List.Sublist [b, a] l := by
  intro hswap
  obtain ⟨before, after, rfl⟩ := List.append_of_mem (h.subset List.mem_cons_self)
  have hbefore := mem_of_pair_sublist hnodup hswap
  have hafter : b ∈ after.reverse := by
    have hreverse : List.Sublist [b, a] (after.reverse ++ a :: before.reverse) := by
      simpa using h.reverse
    have hnodup' : (after.reverse ++ a :: before.reverse).Nodup := by
      simpa using (List.reverse_perm _).nodup_iff.mpr hnodup
    exact mem_of_pair_sublist hnodup' hreverse
  obtain ⟨-, -, hdisjoint⟩ := List.nodup_append.mp hnodup
  exact hdisjoint b hbefore b (List.mem_cons_of_mem _ (List.mem_reverse.mp hafter)) rfl

/-- A route that does not decode a URL decodes it to nothing. -/
theorem not_decodes_iff {r : Route} : ¬Decodes url r ↔ r.pattern.decode url = none := by
  rw [Decodes, not_exists, Option.eq_none_iff_forall_ne_some]

/-- Nothing is found just if no route decodes the URL. -/
theorem firstDecoding_eq_none_iff {routes : List Route} :
    firstDecoding url routes = none ↔ ∀ r ∈ routes, ¬Decodes url r := by
  simp only [firstDecoding, List.findSome?_eq_none_iff, Option.map_eq_none_iff, not_decodes_iff]

/-- A route is found just if it decodes the URL and none before it does. -/
theorem firstDecoding_eq_some_iff {routes : List Route} :
    firstDecoding url routes = some (r, data) ↔
      r.pattern.decode url = some data ∧ ∃ before after, routes = before ++ r :: after ∧
        ∀ other ∈ before, ¬Decodes url other := by
  have hnone (other : Route) : ¬Decodes url other ↔
      (other.pattern.decode url).map (other, ·) = none := by
    rw [Option.map_eq_none_iff, not_decodes_iff]
  have hsome (other : Route) : (other.pattern.decode url).map (other, ·) = some (r, data) ↔
      other = r ∧ r.pattern.decode url = some data := by
    rw [Option.map_eq_some_iff]
    constructor
    · rintro ⟨found, hfound, heq⟩
      obtain ⟨rfl, rfl⟩ := Prod.mk.inj heq
      exact ⟨rfl, hfound⟩
    · rintro ⟨rfl, hfound⟩
      exact ⟨data, hfound, rfl⟩
  rw [firstDecoding, List.findSome?_eq_some_iff]
  constructor
  · rintro ⟨before, other, after, heq, hother, hbefore⟩
    obtain ⟨rfl, hdecode⟩ := (hsome other).mp hother
    exact ⟨hdecode, before, after, heq, fun q hq => (hnone q).mpr (hbefore q hq)⟩
  · rintro ⟨hdecode, before, after, heq, hbefore⟩
    exact ⟨before, r, after, heq, (hsome r).mpr ⟨rfl, hdecode⟩,
      fun q hq => (hnone q).mp (hbefore q hq)⟩

section Sorting

/-- The order of trying by rank is total. -/
theorem byRank_trans_total :
    (∀ a b c : Route, decide (b.pattern.rank ≤ a.pattern.rank) →
      decide (c.pattern.rank ≤ b.pattern.rank) → decide (c.pattern.rank ≤ a.pattern.rank)) ∧
    ∀ a b : Route, decide (b.pattern.rank ≤ a.pattern.rank) ||
      decide (a.pattern.rank ≤ b.pattern.rank) := by
  simp only [Bool.or_eq_true, decide_eq_true_eq]
  exact ⟨fun a b c hab hbc => Nat.le_trans hbc hab, fun a b => Nat.le_total _ _⟩

/-- No route is tried twice. -/
theorem nodup_candidates (t : RouteTable) (strategy : MatchStrategy) :
    (t.candidates strategy).Nodup := by
  cases strategy with
  | firstMatch => exact t.nodup_routes
  | ranked => exact (List.mergeSort_perm t.routes _).nodup_iff.mpr t.nodup_routes

/-- By rank, no route is tried before one that outranks it. -/
theorem pairwise_candidates (t : RouteTable) :
    (t.candidates .ranked).Pairwise fun a b => b.pattern.rank ≤ a.pattern.rank :=
  (List.pairwise_mergeSort byRank_trans_total.1 byRank_trans_total.2 t.routes).imp
    fun h => of_decide_eq_true h

/-- Sorting by rank keeps the order of routes of which the second does not outrank the first. -/
theorem sublist_candidates {r r' : Route} (hrank : r'.pattern.rank ≤ r.pattern.rank)
    (h : List.Sublist [r, r'] t.routes) : List.Sublist [r, r'] (t.candidates .ranked) :=
  List.pair_sublist_mergeSort byRank_trans_total.1 byRank_trans_total.2 (decide_eq_true hrank) h

/-- By rank, a route is tried before another one that it outranks, or before one of its rank that
was registered behind it. -/
theorem outranks_or_sublist_routes {r r' : Route}
    (h : List.Sublist [r, r'] (t.candidates .ranked)) :
    r'.pattern.rank < r.pattern.rank ∨
      r'.pattern.rank = r.pattern.rank ∧ List.Sublist [r, r'] t.routes := by
  have hpairwise := t.pairwise_candidates.sublist h
  have hle := (List.pairwise_cons.mp hpairwise).1 r' (List.mem_singleton.mpr rfl)
  refine (Nat.lt_or_eq_of_le hle).imp_right fun heq => ⟨heq, ?_⟩
  have hr : r ∈ t.routes := mem_candidates.mp (h.subset List.mem_cons_self)
  have hr' : r' ∈ t.routes := mem_candidates.mp (h.subset (by simp))
  obtain ⟨before, after, hroutes⟩ := List.append_of_mem hr
  rw [hroutes] at hr'
  rcases List.mem_append.mp hr' with hbefore | hafter
  · -- Registered the other way round, the routes would be tried the other way round.
    have hpair : List.Sublist [r', r] t.routes := by
      rw [hroutes]
      exact (List.singleton_sublist.mpr hbefore).append
        (List.singleton_sublist.mpr List.mem_cons_self)
    have htried := sublist_candidates (Nat.le_of_eq heq.symm) hpair
    exact absurd htried (not_sublist_swap (t.nodup_candidates .ranked) h)
  · rcases List.mem_cons.mp hafter with rfl | hafter
    · exact absurd (h.nodup (t.nodup_candidates .ranked)) (by simp)
    · rw [hroutes]
      exact (List.Sublist.cons_cons r (List.singleton_sublist.mpr hafter)).trans
        (List.sublist_append_right before _)

end Sorting

/-- Sorting by rank puts a route behind those that outrank it, and keeps the order otherwise. -/
theorem isWinner_of_mergeSort {before after : List Route} (hdecodes : Decodes url r)
    (hsorted : t.candidates .ranked = before ++ r :: after)
    (hbefore : ∀ other ∈ before, ¬Decodes url other) : t.IsWinner .ranked url r := by
  have hnodup : (before ++ r :: after).Nodup := hsorted ▸ t.nodup_candidates .ranked
  have hpairwise := t.pairwise_candidates
  rw [hsorted] at hpairwise
  have hmem (q : Route) : q ∈ before ++ r :: after ↔ q ∈ t.routes := by
    rw [← hsorted]
    exact mem_candidates
  obtain ⟨front, back, hroutes⟩ := List.append_of_mem ((hmem r).mp (by simp))
  refine ⟨hdecodes, front, back, hroutes, fun q hq hdecodes => ⟨rfl, ?_⟩, fun q hq hdecodes => ?_⟩
  · -- A route before `r` with no smaller rank would stay before it.
    by_contra hrank
    have hpair : List.Sublist [q, r] t.routes := by
      rw [hroutes]
      exact (List.singleton_sublist.mpr hq).append (List.singleton_sublist.mpr List.mem_cons_self)
    have hstable := sublist_candidates (Nat.not_lt.mp hrank) hpair
    rw [hsorted] at hstable
    exact hbefore q (mem_of_pair_sublist hnodup hstable) hdecodes
  · rintro ⟨-, hlt⟩
    have hq : q ∈ before ++ r :: after := (hmem q).mpr (by rw [hroutes]; simp [hq])
    rcases List.mem_append.mp hq with hq | hq
    · exact hbefore q hq hdecodes
    · rcases List.mem_cons.mp hq with rfl | hq
      · exact Nat.lt_irrefl _ hlt
      · obtain ⟨-, hcons, -⟩ := List.pairwise_append.mp hpairwise
        exact Nat.not_le.mpr hlt ((List.pairwise_cons.mp hcons).1 q hq)

/-- No other winner is registered behind a winner. -/
theorem IsWinner.not_mem_after {r' : Route} {before after : List Route}
    (h : t.IsWinner strategy url r) (h' : t.IsWinner strategy url r')
    (hroutes : t.routes = before ++ r :: after)
    (hafter : ∀ other ∈ after, Decodes url other → ¬Outranks strategy other r) : r' ∉ after := by
  intro hmem
  obtain ⟨hdecodes', before', after', hroutes', hbefore', -⟩ := h'
  have hpair : List.Sublist [r, r'] t.routes := by
    rw [hroutes]
    exact (List.Sublist.cons_cons r (List.singleton_sublist.mpr hmem)).trans
      (List.sublist_append_right _ _)
  rw [hroutes'] at hpair
  have hr : r ∈ before' := mem_of_pair_sublist (hroutes' ▸ t.nodup_routes) hpair
  exact hafter r' hmem hdecodes' (hbefore' r hr h.1)

/-- There is one winner at most. -/
theorem IsWinner.unique {r' : Route} (h : t.IsWinner strategy url r)
    (h' : t.IsWinner strategy url r') : r = r' := by
  obtain ⟨hdecodes, before, after, hroutes, hbefore, hafter⟩ := id h
  obtain ⟨hdecodes', before', after', hroutes', hbefore', hafter'⟩ := id h'
  have hmem {q q' : Route} {front back : List Route} (hroutes : t.routes = front ++ q :: back)
      (hback : q' ∉ back) (hq' : q' ∈ t.routes) : q' = q ∨ q' ∈ front := by
    rw [hroutes, List.mem_append, List.mem_cons] at hq'
    rcases hq' with hq' | hq' | hq'
    · exact .inr hq'
    · exact .inl hq'
    · exact absurd hq' hback
  rcases hmem hroutes (h.not_mem_after h' hroutes hafter) (hroutes' ▸ by simp) with heq | hfront
  · exact heq.symm
  rcases hmem hroutes' (h'.not_mem_after h hroutes' hafter') (hroutes ▸ by simp) with heq | hfront'
  · exact heq
  -- Either route would outrank the other one.
  have hlt := (hbefore r' hfront hdecodes').2
  have hlt' := (hbefore' r hfront' hdecodes).2
  omega

/-- **Trying the routes in order finds the winner.**  The winner is told without sorting, by the
routes that were registered before and behind it. -/
theorem firstDecoding_candidates_eq_some_iff :
    firstDecoding url (t.candidates strategy) = some (r, data) ↔
      t.IsWinner strategy url r ∧ r.pattern.decode url = some data := by
  have hwinner {r : Route} {data : RouteData}
      (h : firstDecoding url (t.candidates strategy) = some (r, data)) :
      t.IsWinner strategy url r := by
    obtain ⟨hdecode, before, after, hcandidates, hbefore⟩ := firstDecoding_eq_some_iff.mp h
    cases strategy with
    | firstMatch =>
      exact ⟨⟨data, hdecode⟩, before, after, hcandidates,
        fun other hother hdecodes => absurd hdecodes (hbefore other hother), by simp [Outranks]⟩
    | ranked => exact isWinner_of_mergeSort ⟨data, hdecode⟩ hcandidates hbefore
  refine ⟨fun h => ⟨hwinner h, (firstDecoding_eq_some_iff.mp h).1⟩, ?_⟩
  rintro ⟨h, hdecode⟩
  cases hfound : firstDecoding url (t.candidates strategy) with
  | none =>
    obtain ⟨-, before, after, hroutes, -⟩ := h
    have hr : r ∈ t.candidates strategy := mem_candidates.mpr (hroutes ▸ by simp)
    exact absurd ⟨data, hdecode⟩ (firstDecoding_eq_none_iff.mp hfound r hr)
  | some found =>
    obtain ⟨r', data'⟩ := found
    obtain rfl := h.unique (hwinner hfound)
    obtain ⟨hdecode', -⟩ := firstDecoding_eq_some_iff.mp hfound
    rw [Option.some.inj (hdecode.symm.trans hdecode')]

/-- A URL that a route decodes has a winner. -/
theorem exists_isWinner (strategy : MatchStrategy) (h : ∃ r ∈ t.routes, Decodes url r) :
    ∃ r, t.IsWinner strategy url r := by
  obtain ⟨r, hr, hdecodes⟩ := h
  cases hfound : firstDecoding url (t.candidates strategy) with
  | none => exact absurd hdecodes (firstDecoding_eq_none_iff.mp hfound r (mem_candidates.mpr hr))
  | some found => exact ⟨found.1, (firstDecoding_candidates_eq_some_iff.mp hfound).1⟩

/-- Nothing is resolved just if no route decodes the URL; then no failure is reported either. -/
theorem resolve_eq_none_iff :
    t.resolve url strategy = .ok none ↔ ∀ r ∈ t.routes, ¬Decodes url r := by
  have hcandidates : firstDecoding url (t.candidates strategy) = none ↔
      ∀ r ∈ t.routes, ¬Decodes url r := by
    simp only [firstDecoding_eq_none_iff, mem_candidates]
  rw [← hcandidates, resolve]
  cases firstDecoding url (t.candidates strategy) with
  | none => exact iff_of_true rfl rfl
  | some found =>
    refine iff_of_false ?_ (by rintro ⟨⟩)
    cases hlocate : found.1.locate found.2 <;> simp [hlocate, Except.map]

/-- A URL is resolved to where the winner locates what it decodes. -/
theorem IsWinner.resolve_eq (h : t.IsWinner strategy url r)
    (hdecode : r.pattern.decode url = some data) :
    t.resolve url strategy = (r.locate data).map some := by
  rw [resolve, firstDecoding_candidates_eq_some_iff.mpr ⟨h, hdecode⟩]

/-- Data that was decoded is located at the path that it is encoded to, unless that path has a
dot segment. -/
theorem locate_reencoded {address : Address} {path : Text} (h : r.pattern.IsPlain)
    (hpath : r.pattern.Reencodes address data path) :
    ((∀ s ∈ Address.pieces path, Segments.isDot s = false) →
        r.locate data = .ok ⟨r.name, path, Pattern.withPath data path, data⟩) ∧
      ((∃ s ∈ Address.pieces path, Segments.isDot s) →
        r.locate data = .error (.noMatch (Pattern.withPath data path))) := by
  constructor
  · intro hdots
    have hagain := hpath.decode ⟨hpath.isWritten, hpath.single, hdots⟩
    exact Route.locate_eq_ok_iff.mpr ⟨path, data, hpath.encodePath, hagain, rfl⟩
  · rintro ⟨s, hs, hdot⟩
    have hnone : r.pattern.decode (Pattern.withPath data path) = none := by
      refine Option.eq_none_iff_forall_ne_some.mpr fun found hfound => ?_
      have hdot' := (h.isCanonical_of_decode hpath.encodePath hfound).noDots s hs
      exact absurd hdot (by simp [hdot'])
    unfold Route.locate
    simp only [hpath.encodePath, hnone]

/-- **A plain table resolves a URL to the location of the winner.**  Only a dot segment in the
encoded path makes it fail; there is none unless the URL is the one of a file with a line break
in it. -/
theorem IsPlain.resolve_winner (h : t.IsPlain) (strategy : MatchStrategy) (url : Text) :
    (t.resolve url strategy = .ok none ↔ ∀ r ∈ t.routes, ¬Decodes url r) ∧
    ((∃ r ∈ t.routes, Decodes url r) → ∃ r, t.IsWinner strategy url r) ∧
    ∀ r data, t.IsWinner strategy url r → r.pattern.decode url = some data →
      ∃ path, r.pattern.encodePath data.params = .ok path ∧
        ((∀ s ∈ Address.pieces path, Segments.isDot s = false) →
          t.resolve url strategy =
            .ok (some ⟨r.name, path, Pattern.withPath data path, data⟩)) ∧
        ((∃ s ∈ Address.pieces path, Segments.isDot s) →
          t.resolve url strategy = .error (.noMatch (Pattern.withPath data path))) ∧
        (¬Reference.IsFile url ∨ Reference.NoBreaks url →
          ∀ s ∈ Address.pieces path, Segments.isDot s = false) := by
  refine ⟨resolve_eq_none_iff, exists_isWinner strategy, fun r data hwinner hdecode => ?_⟩
  have hplain : r.pattern.IsPlain := by
    obtain ⟨-, before, after, hroutes, -⟩ := hwinner
    exact h r (hroutes ▸ by simp)
  cases hurl : Address.read? url with
  | none =>
    rw [Pattern.decode, Pattern.tryDecode, hurl] at hdecode
    cases hdecode
  | some address =>
    obtain ⟨path, hpath⟩ := hplain.exists_encoded hurl hdecode
    obtain ⟨hok, herror⟩ := locate_reencoded hplain hpath
    refine ⟨path, hpath.encodePath, fun hdots => ?_, fun hdots => ?_, fun hurl' => ?_⟩
    · rw [hwinner.resolve_eq hdecode, hok hdots]
      rfl
    · rw [hwinner.resolve_eq hdecode, herror hdots]
      rfl
    · exact hpath.noDots (Address.noDots_of_read? hurl hurl' hpath.rooted)

/-- Plain routes that are registered one after the other make up a plain table. -/
theorem isPlain_of_foldlM_insert (h : t.IsPlain) {routes : List Route}
    (hroutes : ∀ r ∈ routes, r.pattern.IsPlain) {t' : RouteTable}
    (hfold : routes.foldlM insert t = .ok t') : t'.IsPlain := by
  induction routes generalizing t with
  | nil => exact Except.ok.inj hfold ▸ h
  | cons r routes ih =>
    obtain ⟨hr, hroutes⟩ := List.forall_mem_cons.mp hroutes
    rw [List.foldlM_cons] at hfold
    cases hinsert : t.insert r with
    | error e =>
      rw [hinsert] at hfold
      cases hfold
    | ok next =>
      rw [hinsert] at hfold
      exact ih (h.insert hr hinsert) hroutes hfold

/-- A table of routes with the given names, all of two strings. -/
def pairs? (names : List Text) : Option RouteTable :=
  (Pattern.parse "/{a}/{b}".toList).toOption.bind fun pattern =>
    ((names.map (⟨·, pattern⟩)).foldlM insert empty).toOption

/-- Such a table is plain. -/
theorem isPlain_of_pairs? {names : List Text} (h : pairs? names = some t) : t.IsPlain := by
  obtain ⟨pattern, hpattern, h⟩ := Option.bind_eq_some_iff.mp h
  have hplain := Pattern.isPlain_of_parse_pair (toOption_eq_some_iff.mp hpattern)
  refine isPlain_of_foldlM_insert isPlain_empty (fun r hr => ?_) (toOption_eq_some_iff.mp h)
  obtain ⟨name, -, rfl⟩ := List.mem_map.mp hr
  exact hplain

/-- Of two routes with the same rank, the first one wins. -/
theorem IsPlain.resolve_winner_pair :
    ∃ t : RouteTable, ∃ r data path, t.IsPlain ∧ t.names = ["y".toList, "x".toList] ∧
      t.routes.head? = some r ∧ t.IsWinner .ranked "/1/%2e.2?k#h".toList r ∧
      t.resolve "/1/%2e.2?k#h".toList .ranked =
        .ok (some ⟨r.name, path, Pattern.withPath data path, data⟩) := by
  have hany : (pairs? ["y".toList, "x".toList]).any fun t =>
      t.names == ["y".toList, "x".toList] && t.routes.all fun r =>
        (r.pattern.decode "/1/%2e.2?k#h".toList).isSome &&
          t.routes.all (·.pattern.rank == r.pattern.rank) := by decide +kernel
  obtain ⟨t, ht, hany⟩ := (Option.any_eq_true _ _).mp hany
  obtain ⟨hnames, hroute⟩ := Bool.and_eq_true_iff.mp hany
  have hnames : t.names = ["y".toList, "x".toList] := eq_of_beq hnames
  obtain ⟨r, others, hroutes, -, -⟩ := List.map_eq_cons_iff.mp hnames
  have hr : r ∈ t.routes := by simp [hroutes]
  obtain ⟨hsome, hranks⟩ := Bool.and_eq_true_iff.mp (List.all_eq_true.mp hroute r hr)
  obtain ⟨data, hdata⟩ := Option.isSome_iff_exists.mp hsome
  have hplain := isPlain_of_pairs? ht
  have hwinner : t.IsWinner .ranked "/1/%2e.2?k#h".toList r := by
    refine ⟨⟨data, hdata⟩, [], others, hroutes, by simp, fun other hother _ houtranks => ?_⟩
    have hmem : other ∈ t.routes := by simp [hroutes, hother]
    have hrank : other.pattern.rank = r.pattern.rank :=
      eq_of_beq (List.all_eq_true.mp hranks other hmem)
    exact absurd houtranks.2 (by omega)
  obtain ⟨-, -, hresolve⟩ := IsPlain.resolve_winner hplain .ranked "/1/%2e.2?k#h".toList
  obtain ⟨path, -, hok, -, hdots⟩ := hresolve r data hwinner hdata
  have hscheme : Reference.scheme? (Reference.trim "/1/%2e.2?k#h".toList) = none := by decide
  refine ⟨t, r, data, path, hplain, hnames, by simp [hroutes], hwinner,
    hok (hdots (.inl fun ⟨behind, hfile⟩ => ?_))⟩
  rw [hscheme] at hfile
  cases hfile

/-- A table may fail to resolve a URL that its only route decodes. -/
theorem exists_resolve_eq_noMatch :
    ∃ t : RouteTable, t.IsPlain ∧ (∃ r ∈ t.routes, Decodes "file:C:\t..".toList r) ∧
      t.resolve "file:C:\t..".toList .firstMatch = .error (.noMatch "/C%3A/..".toList) := by
  have hany : (pairs? [[]]).any fun t =>
      (t.routes.any fun r => (r.pattern.decode "file:C:\t..".toList).isSome) &&
        match t.resolve "file:C:\t..".toList .firstMatch with
        | .ok _ => false
        | .error e => e == .noMatch "/C%3A/..".toList := by decide +kernel
  obtain ⟨t, ht, hany⟩ := (Option.any_eq_true _ _).mp hany
  obtain ⟨hdecodes, herror⟩ := Bool.and_eq_true_iff.mp hany
  obtain ⟨r, hr, hsome⟩ := List.any_eq_true.mp hdecodes
  refine ⟨t, isPlain_of_pairs? ht, ⟨r, hr, Option.isSome_iff_exists.mp hsome⟩, ?_⟩
  cases hresolve : t.resolve "file:C:\t..".toList .firstMatch with
  | ok found => rw [hresolve] at herror; cases herror
  | error e => rw [hresolve] at herror; rw [beq_iff_eq.mp herror]

end RouteTable
end Routing
