/-
# Recording navigations

A navigation that lands hands its URL to the history, which may take it or not.  In any run, with
whatever is done to the history directly, a push that lands makes up the last entry, and a replace
that lands makes up the current one, exactly if the entry before keeps the path
(`isRecorded_run_iff`).  It does whenever the start and the URLs that are recorded directly begin
with a slash.  Behind a URL like `mailto:x` the router moves on, and the history stays
(`exists_push_not_recorded`).

What holds of the URLs of all locations, and of those that are recorded directly, can be carried
through a run of a router as an invariant of its history (`history_run`).
-/

import Routing.Proofs.History.Recording
import Routing.Proofs.Router.InStep

namespace Routing

/-- The parameters of the routes keep the default matcher. -/
def RouteTable.HasDefaultMatchers (t : RouteTable) : Prop :=
  ∀ r ∈ t.routes, ∃ segments, Pattern.compile segments = .ok r.pattern ∧
    Token.HasDefaultMatchers (segments.flatMap Segment.tokens)

/-- The URLs of the locations of the routes. -/
def RouteTable.Locates (t : RouteTable) (Q : Text → Prop) : Prop :=
  ∀ r ∈ t.routes, ∀ data location, r.locate data = .ok location → Q location.fullPath

/-- A plain pattern is compiled from segments with default matchers. -/
theorem Pattern.IsPlain.exists_compile {p : Pattern} (h : p.IsPlain) :
    ∃ segments, compile segments = .ok p ∧
      Token.HasDefaultMatchers (segments.flatMap Segment.tokens) := by
  obtain ⟨template, hparse⟩ := h.parsed
  unfold parse at hparse
  split at hparse
  case h_1 => cases hparse
  case h_2 tokens htokens =>
    cases hcompile : compile (tokens.map Segment.ofToken) with
    | error e =>
      rw [hcompile] at hparse
      cases hparse
    | ok q =>
      rw [hcompile] at hparse
      obtain rfl : q = p := Except.ok.inj hparse
      refine ⟨_, hcompile, ?_⟩
      have hdefault := h.hasDefaultMatchers
      rw [HasDefaultMatchers, (ofTokens_eq_ok hcompile).1] at hdefault
      rwa [Token.HasDefaultMatchers, params_rooted_join] at hdefault

/-- A plain table has default matchers throughout. -/
theorem RouteTable.IsPlain.hasDefaultMatchers {t : RouteTable} (h : t.IsPlain) :
    t.HasDefaultMatchers := fun r hr => (h r hr).exists_compile

/-- The URL of a location is rendered from a canonical path. -/
theorem RouteTable.HasDefaultMatchers.exists_address {t : RouteTable} (h : t.HasDefaultMatchers)
    {r : Route} (hr : r ∈ t.routes) {data : RouteData} {location : Location}
    (hlocate : r.locate data = .ok location) :
    ∃ a : Address, Address.IsCanonical a.path ∧ a.path = location.path ∧
      a.render = location.fullPath := by
  obtain ⟨segments, hcompile, hmatchers⟩ := h r hr
  obtain ⟨htokens, -⟩ := Pattern.ofTokens_eq_ok hcompile
  have hdefault : r.pattern.HasDefaultMatchers := by
    rwa [Pattern.HasDefaultMatchers, Token.HasDefaultMatchers, htokens, Pattern.params_rooted_join]
  obtain ⟨path, found, hpath, hfound, rfl⟩ := Route.locate_eq_ok_iff.mp hlocate
  refine ⟨⟨path, data.search, data.hash⟩, ?_, rfl, rfl⟩
  exact hdefault.isCanonical_of_decode (htokens ▸ Token.isJoined_rooted (Token.isJoined_join _))
    (htokens ▸ Token.rooted_eq_cons _) hpath hfound

/-- The URLs of all locations begin with a slash. -/
theorem RouteTable.HasDefaultMatchers.locates {t : RouteTable} (h : t.HasDefaultMatchers) :
    t.Locates fun s => s.head? = some '/' := by
  intro r hr data location hlocate
  obtain ⟨a, ha, -, hrender⟩ := h.exists_address hr hlocate
  rw [← hrender, ha.render_eq_cons]
  rfl

/-- The URLs that an operation has the history record directly. -/
def Op.Brings (Q : Text → Prop) : Op → Prop
  | .history (.push url) | .history (.replace url) => Q url
  | _ => True

namespace Router

variable {r : Router}

section History

variable {P : History → Prop} {Q : Text → Prop}

/-- A navigation keeps an invariant: it records the URL of a location, or nothing. -/
theorem history_navigateTo (hP : History.IsInvariant P Q) (hQ : r.table.Locates Q)
    (h : P r.history) (target : NavigationTarget) (recording : Recording) :
    P (r.navigateTo target recording).router.history := by
  unfold navigateTo
  split
  case h_1 => exact h
  case h_2 location hlocate =>
    obtain ⟨route, hmem, data, hlocate⟩ := exists_of_locate hlocate
    have hurl := hQ route hmem data location hlocate
    unfold navigate
    split
    · split <;> exact h
    · cases recording with
      | push => exact hP.push _ _ hurl h
      | replace => exact hP.replace _ _ hurl h
      | follow => exact h

/-- Handling an event keeps an invariant: it records nothing. -/
theorem history_handle (hP : History.IsInvariant P Q) (hQ : r.table.Locates Q) (h : P r.history)
    (event : HistoryEvent) : P (r.handle event).router.history := by
  cases event with
  | pop url => exact history_navigateTo hP hQ h _ _
  | push url => exact history_navigateTo hP hQ h _ _

/-- Handling events keeps an invariant. -/
theorem history_drain (hP : History.IsInvariant P Q) (hQ : r.table.Locates Q) (h : P r.history)
    (events : List HistoryEvent) : P (r.drain events).router.history := by
  induction events generalizing r with
  | nil => exact hP.events _ _ h
  | cons event events ih =>
    have hstep : P ((r.withEvents events).handle event).router.history :=
      history_handle (r := r.withEvents events) hP hQ (hP.events _ _ h) event
    have htable : ((r.withEvents events).handle event).router.table = r.table :=
      (sameSetup_handle (r.withEvents events) event).1
    rw [drain]
    dsimp only
    split
    · exact hstep
    · exact ih (htable ▸ hQ) hstep

/-- **What recording, moves and events keep, every operation keeps.** -/
theorem history_perform (hP : History.IsInvariant P Q) (hQ : r.table.Locates Q) (h : P r.history)
    {op : Op} (hop : op.Brings Q) : P (op.perform r).router.history := by
  -- A move of the router is one of the history, with its events handled.
  have hgo (delta : Int) : P (r.go delta).router.history :=
    history_drain (r := { r with history := r.history.go delta }) hP hQ (hP.go _ _ h) _
  cases op with
  | push target => exact history_navigateTo hP hQ h target .push
  | replace target => exact history_navigateTo hP hQ h target .replace
  | back => exact hgo (-1)
  | forward => exact hgo 1
  | go delta => exact hgo delta
  | handle event => exact history_handle hP hQ h event
  | sync => exact history_drain hP hQ h _
  | subscribe => exact h
  | unsubscribe id => exact h
  | history step =>
    cases step with
    | push url => exact hP.push _ _ hop h
    | replace url => exact hP.replace _ _ hop h
    | go delta => exact hP.go _ _ h
    | back => exact hP.go _ (-1) h
    | forward => exact hP.go _ 1 h
    | emit event => exact hP.events _ _ h
    | poll =>
      show P r.history.poll.2
      unfold History.poll
      split
      · exact h
      · exact hP.events _ _ h

/-- **An invariant of histories holds throughout a run.**  Handlers, the queue and the operations
are gone through once for all invariants. -/
theorem history_run (hP : History.IsInvariant P Q) (hQ : r.table.Locates Q) (h : P r.history)
    {ops : List Op} (hops : ∀ op ∈ ops, op.Brings Q) : P (r.run ops).history := by
  refine (run_induction (P := fun s => s.table = r.table ∧ P s.history) ⟨rfl, h⟩ ?_).2
  rintro op hop s ⟨htable, hs⟩
  exact ⟨(sameSetup_perform s op).1.trans htable,
    history_perform hP (htable ▸ hQ) hs (hops op hop)⟩

end History

/-- A navigation that lands hands its URL to the history. -/
theorem exists_of_navigateTo {target : NavigationTarget} {recording : Recording}
    (h : (r.navigateTo target recording).result = .ok true) :
    ∃ location, r.locate target = .ok location ∧ (r.navigateTo target recording).router =
      { r with history := recording.record r.history location.fullPath, location } := by
  unfold navigateTo at h ⊢
  split at h
  case h_1 => cases h
  case h_2 location hlocate =>
    rw [hlocate]
    unfold navigate at h ⊢
    split at h
    case isTrue => split at h <;> cases h
    case isFalse hne => exact ⟨location, rfl, by rw [if_neg hne]⟩

/-- A push that lands is recorded exactly if the current entry keeps the path. -/
theorem isPushed_push_iff (htable : r.table.HasDefaultMatchers) {target : NavigationTarget}
    (h : (r.push target).result = .ok true) :
    r.history.IsPushed (r.push target).router.history (r.push target).router.location.fullPath ↔
      r.history.current.keeps (r.push target).router.location.path := by
  obtain ⟨location, hlocate, hrouter⟩ := exists_of_navigateTo h
  obtain ⟨route, hmem, data, hlocate⟩ := exists_of_locate hlocate
  obtain ⟨a, ha, hpath, hrender⟩ := htable.exists_address hmem hlocate
  rw [push, hrouter]
  show r.history.IsPushed (r.history.push location.fullPath) location.fullPath ↔
    r.history.current.keeps location.path
  rw [← hpath, ← hrender]
  exact r.history.isPushed_push_iff ha

/-- A replace that lands is recorded exactly if the current entry keeps the path. -/
theorem isReplaced_replace_iff (htable : r.table.HasDefaultMatchers)
    (hbare : r.history.current.path.IsBare) {target : NavigationTarget}
    (h : (r.replace target).result = .ok true) :
    r.history.IsReplaced (r.replace target).router.history
        (r.replace target).router.location.fullPath ↔
      r.history.current.keeps (r.replace target).router.location.path := by
  obtain ⟨location, hlocate, hrouter⟩ := exists_of_navigateTo h
  obtain ⟨route, hmem, data, hlocate⟩ := exists_of_locate hlocate
  obtain ⟨a, ha, hpath, hrender⟩ := htable.exists_address hmem hlocate
  rw [replace, hrouter]
  show r.history.IsReplaced (r.history.replace location.fullPath) location.fullPath ↔
    r.history.current.keeps location.path
  rw [← hpath, ← hrender]
  exact History.isReplaced_replace_iff hbare ha

/-- A router is made of the routes and the history that it is given. -/
theorem history_new {table : RouteTable} {history : History} {config : RouterConfig}
    (hnew : new table history config = .ok r) : r.table = table ∧ r.history = history := by
  unfold new at hnew
  split at hnew
  case h_1 => cases hnew
  case h_2 => cases hnew
  case h_3 location hresolve =>
    obtain rfl := Except.ok.inj hnew
    exact ⟨rfl, rfl⟩

/-- **In every run, a navigation that lands is recorded exactly if the current entry keeps its
path.**  It does throughout a run whose start, and whose URLs that are recorded directly, begin
with a slash. -/
theorem isRecorded_run_iff {table : RouteTable} {start : Text} {config : RouterConfig}
    (htable : table.HasDefaultMatchers)
    (hnew : new table (History.new start) config = .ok r) (ops : List Op) :
    (∀ target, ((r.run ops).push target).result = .ok true →
      ((r.run ops).history.IsPushed ((r.run ops).push target).router.history
          ((r.run ops).push target).router.location.fullPath ↔
        (r.run ops).history.current.keeps ((r.run ops).push target).router.location.path)) ∧
    (∀ target, ((r.run ops).replace target).result = .ok true →
      ((r.run ops).history.IsReplaced ((r.run ops).replace target).router.history
          ((r.run ops).replace target).router.location.fullPath ↔
        (r.run ops).history.current.keeps ((r.run ops).replace target).router.location.path)) ∧
    (start.head? = some '/' → (∀ op ∈ ops, op.Brings fun url => url.head? = some '/') →
      ∀ path, (r.run ops).history.current.keeps path) := by
  obtain ⟨rfl, hhistory⟩ := history_new hnew
  have htable' : (r.run ops).table.HasDefaultMatchers := by
    rwa [(r.sameSetup_run ops).1]
  -- Replacing also asks that the current entry is bare, which every history keeps whatever is
  -- brought to it.
  have hbare : ∀ entry ∈ (r.run ops).history.entries, entry.path.IsBare := by
    refine history_run History.isInvariant_isBare (fun _ _ _ _ _ => trivial)
      (hhistory ▸ History.isBare_new start) fun op _ => ?_
    cases op with
    | history step => cases step <;> trivial
    | _ => trivial
  refine ⟨fun target => isPushed_push_iff htable',
    fun target => isReplaced_replace_iff htable' (hbare _ (History.current_mem _)),
    fun hstart hops path => ?_⟩
  have hmemory := history_run History.isInvariant_isMemory htable.locates
    (hhistory ▸ History.isMemory_new hstart) hops
  exact (hmemory _ (History.current_mem _)).keeps path

/-- A push is recorded behind the URL of a file without a drive. -/
theorem isRecorded_run_pair :
    ∃ table r, RouteTable.HasDefaultMatchers table ∧
      new table (History.new "/x/y".toList) {} = .ok r ∧
      ((r.run [.history (.push "file:///x/y".toList)]).push (.url "/1/2".toList)).result =
        .ok true ∧
      (r.run [.history (.push "file:///x/y".toList)]).history.IsPushed
        ((r.run [.history (.push "file:///x/y".toList)]).push (.url "/1/2".toList)).router.history
        ((r.run [.history (.push "file:///x/y".toList)]).push
          (.url "/1/2".toList)).router.location.fullPath := by
  have hany : (pair? "/x/y".toList).any fun r =>
      let s := r.run [.history (.push "file:///x/y".toList)]
      let o := s.push (.url "/1/2".toList)
      o.result.toOption == some true && s.history.current.keeps o.router.location.path := by
    decide +kernel
  obtain ⟨r, hr, hany⟩ := (Option.any_eq_true _ _).mp hany
  obtain ⟨table, htable, hnew⟩ := exists_of_pair? hr
  obtain ⟨hresult, hkeeps⟩ := Bool.and_eq_true_iff.mp hany
  have hresult := toOption_eq_some_iff.mp (beq_iff_eq.mp hresult)
  have hrecorded := isRecorded_run_iff htable.hasDefaultMatchers hnew
    [.history (.push "file:///x/y".toList)]
  exact ⟨table, r, htable.hasDefaultMatchers, hnew, hresult,
    (hrecorded.1 _ hresult).mpr hkeeps⟩

/-- Behind a URL without segments a push lands, but the history stays as it was. -/
theorem exists_push_not_recorded :
    ∃ table r, RouteTable.HasDefaultMatchers table ∧
      new table (History.new "/x/y".toList) {} = .ok r ∧
      ((r.run [.history (.push "mailto:x".toList)]).push (.url "/1/2".toList)).result =
        .ok true ∧
      ((r.run [.history (.push "mailto:x".toList)]).push
        (.url "/1/2".toList)).router.location.fullPath = "/1/2".toList ∧
      ((r.run [.history (.push "mailto:x".toList)]).push
        (.url "/1/2".toList)).router.history.currentPath = "x".toList ∧
      ((r.run [.history (.push "mailto:x".toList)]).push
        (.url "/1/2".toList)).router.history.length = 2 := by
  have hany : (pair? "/x/y".toList).any fun r =>
      let o := (r.run [.history (.push "mailto:x".toList)]).push (.url "/1/2".toList)
      o.result.toOption == some true && o.router.location.fullPath == "/1/2".toList &&
        o.router.history.currentPath == "x".toList && o.router.history.length == 2 := by
    decide +kernel
  obtain ⟨r, hr, hany⟩ := (Option.any_eq_true _ _).mp hany
  obtain ⟨table, htable, hnew⟩ := exists_of_pair? hr
  simp only [Bool.and_eq_true, beq_iff_eq] at hany
  obtain ⟨⟨⟨hresult, hlocation⟩, hcurrent⟩, hlength⟩ := hany
  exact ⟨table, r, htable.hasDefaultMatchers, hnew, toOption_eq_some_iff.mp hresult, hlocation,
    hcurrent, hlength⟩

end Router
end Routing
