/-
# Keeping in step with a history

A router is in step with its history when the current URL is the one of its location, or leads
to it (`InStep`).  It is on course when that will be so after the events that are waiting
(`OnCourse`).  Moves of a user and of the router keep it on course, and so does handling events;
a navigation that lands while an event is waiting may take it off
(`not_inStep_of_late_event`).  So a run in which none does is in step whenever the events have
been handled (`inStep_sync_run_iff`), and without moves of a user it always is (`inStep_run`).

Being on course is the invariant: it speaks of where the events will lead (`Router.due`), which
does not change when some of them are handled.  Being in step is the same with no event waiting
(`onCourse_iff_inStep`).  A user's move adds an event that leads to the new current URL, so it even
brings a router back on course; a navigation keeps it there if the queue is empty.
-/

import Routing.Proofs.Router.Following

namespace Routing
namespace Router

variable {r : Router}

/-- The URL is the one of a location, or leads to the location with that one. -/
def Shows (r : Router) (url fullPath : Text) : Prop :=
  url = fullPath ∨ ∃ location,
    r.table.resolve url r.config.matchStrategy = .ok (some location) ∧ location.fullPath = fullPath

instance (r : Router) (url fullPath : Text) : Decidable (r.Shows url fullPath) :=
  match h : r.table.resolve url r.config.matchStrategy with
  | .ok (some location) =>
    decidable_of_iff (url = fullPath ∨ location.fullPath = fullPath) (by simp [Shows, h])
  | .ok none | .error _ => decidable_of_iff (url = fullPath) (by simp [Shows, h])

/-- The history is where the router is. -/
def InStep (r : Router) : Prop := r.Shows r.history.currentPath r.location.fullPath

instance (r : Router) : Decidable r.InStep := inferInstanceAs (Decidable (r.Shows _ _))

/-- The history is where the events lead the router. -/
def OnCourse (r : Router) : Prop := r.Shows r.history.currentPath r.due

/-- With no event waiting, a router on course is in step. -/
theorem onCourse_iff_inStep (h : r.history.events = []) : r.OnCourse ↔ r.InStep := by
  rw [OnCourse, InStep, due_of_nil h]

/-- A router begins in step with a sound history. -/
theorem new_inStep {table : RouteTable} {start : Text} {config : RouterConfig}
    (htable : table.IsPlain) (hstart : start.head? = some '/')
    (hnew : new table (History.new start) config = .ok r) :
    r.IsSound ∧ r.history.events = [] ∧ r.InStep ∧ r.table = table ∧ r.config = config := by
  unfold new at hnew
  split at hnew
  case h_1 => cases hnew
  case h_2 => cases hnew
  case h_3 location hresolve =>
    obtain rfl := Except.ok.inj hnew
    refine ⟨⟨htable, fun entry hentry => ?_, by simp [History.new]⟩, rfl,
      .inr ⟨location, hresolve, rfl⟩, rfl, rfl⟩
    refine ⟨History.isMemory_new hstart entry hentry, location, ?_⟩
    rw [List.mem_singleton.mp hentry]
    exact hresolve

namespace IsSound

/-- Handling the events neither brings a router on course nor takes it off. -/
theorem onCourse_sync_iff (h : r.IsSound) : r.sync.router.OnCourse ↔ r.OnCourse := by
  have hdrained := h.drained
  rw [OnCourse, hdrained.due, hdrained.router]
  rfl

/-- A move of the history brings a router on course. -/
theorem onCourse_move (h : r.IsSound) (hcourse : r.OnCourse) (delta : Int) :
    { r with history := r.history.go delta }.OnCourse := by
  rcases r.history.go_cases delta with hgo | ⟨-, hevents⟩
  · rwa [hgo]
  · obtain ⟨location, hresolve⟩ := ((h.move delta).entries _ (History.current_mem _)).2
    refine .inr ⟨location, hresolve, (due_of_getLast? ?_ hresolve).symm⟩
    rw [hevents]
    exact List.getLast?_concat

/-- A navigation keeps a router on course unless it lands while an event is waiting. -/
theorem onCourse_navigateTo (h : r.IsSound) (hcourse : r.OnCourse) (target : NavigationTarget)
    {recording : Recording} (hrecording : recording ≠ .follow)
    (hland : (r.navigateTo target recording).result = .ok true → r.history.events = []) :
    (r.navigateTo target recording).router.OnCourse := by
  rcases navigateTo_cases h target hrecording with ⟨hrouter, -⟩ | ⟨location, history, hrecords,
    -, hrouter, hresult⟩
  · rwa [hrouter]
  · rw [hrouter, onCourse_iff_inStep (hrecords.events.trans (hland hresult))]
    exact .inl hrecords.current

/-- **An operation keeps a router on course** unless it lands while an event is waiting.  Landing
then moves the history away from where the waiting events lead. -/
theorem onCourse_perform (h : r.IsSound) (hcourse : r.OnCourse) {op : Op}
    (hop : op.IsOwnOrMove) (hland : op.Lands r → r.history.events = []) :
    (op.perform r).router.OnCourse := by
  have hgo (delta : Int) : (r.go delta).router.OnCourse :=
    (h.move delta).onCourse_sync_iff.mpr (h.onCourse_move hcourse delta)
  cases op with
  | push target =>
    exact h.onCourse_navigateTo hcourse target (by decide) fun heq => hland (congrArg _ heq)
  | replace target =>
    exact h.onCourse_navigateTo hcourse target (by decide) fun heq => hland (congrArg _ heq)
  | back => exact hgo (-1)
  | forward => exact hgo 1
  | go delta => exact hgo delta
  | handle event => exact hop.elim
  | sync => exact h.onCourse_sync_iff.mpr hcourse
  | subscribe => exact hcourse
  | unsubscribe id => exact hcourse
  | history step =>
    cases step with
    | go delta => exact h.onCourse_move hcourse delta
    | back => exact h.onCourse_move hcourse (-1)
    | forward => exact h.onCourse_move hcourse 1
    | push | replace | emit | poll => exact hop.elim

/-- The run of a sound router leads to a sound one. -/
theorem run (h : r.IsSound) {ops : List Op} (hops : ∀ op ∈ ops, op.IsOwnOrMove) :
    (r.run ops).IsSound :=
  run_induction h fun op hop _ hsound => hsound.perform (hops op hop)

/-- A run keeps a router on course unless a navigation lands while an event is waiting. -/
theorem onCourse_run (h : r.IsSound) (hcourse : r.OnCourse) {ops : List Op}
    (hops : ∀ op ∈ ops, op.IsOwnOrMove) (hsettles : r.Settles ops) : (r.run ops).OnCourse := by
  induction ops generalizing r with
  | nil => exact hcourse
  | cons op ops ih =>
    obtain ⟨hop, hops⟩ := List.forall_mem_cons.mp hops
    exact ih (h.perform hop) (h.onCourse_perform hcourse hop hsettles.1) hops hsettles.2

/-- A move without events before it leaves no events behind. -/
theorem events_go (h : r.IsSound) (hevents : r.history.events = []) (delta : Int) :
    (r.go delta).router.history.events = [] := by
  have htaken := (h.move delta).drained.taken
  have htail : (r.history.go delta).events.tail = [] := by
    rcases r.history.go_cases delta with hgo | ⟨-, hgo⟩
    · rw [hgo, hevents]
      rfl
    · rw [hgo, hevents]
      rfl
  rw [htail] at htaken
  exact List.suffix_nil.mp htaken

/-- The operations of a caller leave no events waiting. -/
theorem events_perform (h : r.IsSound) (hevents : r.history.events = []) {op : Op}
    (hop : op.IsOwn) : (op.perform r).router.history.events = [] := by
  have hnavigate (target : NavigationTarget) {recording : Recording}
      (hrecording : recording ≠ .follow) :
      (r.navigateTo target recording).router.history.events = [] := by
    rcases navigateTo_cases h target hrecording with ⟨hrouter, -⟩ | ⟨location, history, hrecords,
      -, hrouter, -⟩
    · rwa [hrouter]
    · rw [hrouter]
      exact hrecords.events.trans hevents
  cases op with
  | push target => exact hnavigate target (by decide)
  | replace target => exact hnavigate target (by decide)
  | back => exact h.events_go hevents (-1)
  | forward => exact h.events_go hevents 1
  | go delta => exact h.events_go hevents delta
  | handle event => exact hop.elim
  | sync =>
    have htaken := h.drained.taken
    rw [hevents] at htaken
    exact List.suffix_nil.mp htaken
  | subscribe => exact hevents
  | unsubscribe id => exact hevents
  | history step => exact hop.elim

end IsSound

/-- What a caller does is done by a caller or a user. -/
theorem isOwnOrMove_of_isOwn {op : Op} (h : op.IsOwn) : op.IsOwnOrMove := by
  cases op with
  | history step => exact h.elim
  | _ => exact h

/-- **A router that is left to its callers is always in step.**  As long as all calls go through the
router, no event is left waiting, every entry is a URL that the table resolves, and the router
is where the current entry leads.  A move along the entries then fails only where it would be a
duplicate, and only if these are to be refused. -/
theorem inStep_run {table : RouteTable} {start : Text} {config : RouterConfig}
    (htable : table.IsPlain) (hstart : start.head? = some '/')
    (hnew : new table (History.new start) config = .ok r) {ops : List Op}
    (hops : ∀ op ∈ ops, op.IsOwn) :
    (r.run ops).history.events = [] ∧
    (∀ entry ∈ (r.run ops).history.entries, ∃ location,
      table.resolve entry.pathAndAfter config.matchStrategy = .ok (some location)) ∧
    ((r.run ops).history.currentPath = (r.run ops).location.fullPath ∨
      ∃ location,
        table.resolve (r.run ops).history.currentPath config.matchStrategy =
          .ok (some location) ∧
        location.fullPath = (r.run ops).location.fullPath) ∧
    OnlyDuplicatesFail config (r.run ops).back.result ∧
    OnlyDuplicatesFail config (r.run ops).forward.result ∧
    ∀ delta, OnlyDuplicatesFail config ((r.run ops).go delta).result := by
  obtain ⟨hsound, hevents, hstep, rfl, rfl⟩ := new_inStep htable hstart hnew
  obtain ⟨hsound', hevents', hcourse'⟩ : (r.run ops).IsSound ∧
      (r.run ops).history.events = [] ∧ (r.run ops).OnCourse := by
    -- The invariant: what the history holds leads to locations, no event is waiting, and the router
    -- is on course.
    refine run_induction (P := fun s => s.IsSound ∧ s.history.events = [] ∧ s.OnCourse)
      ⟨hsound, hevents, (onCourse_iff_inStep hevents).mpr hstep⟩ ?_
    rintro op hop s ⟨hsound, hevents, hcourse⟩
    have hmove := isOwnOrMove_of_isOwn (hops op hop)
    exact ⟨hsound.perform hmove, hsound.events_perform hevents (hops op hop),
      hsound.onCourse_perform hcourse hmove fun _ => hevents⟩
  obtain ⟨htable', hconfig'⟩ := r.sameSetup_run ops
  have hgo (delta : Int) : OnlyDuplicatesFail r.config ((r.run ops).go delta).result := by
    rw [← hconfig']
    exact (hsound'.move delta).drained.error
  rw [← htable', ← hconfig']
  rw [← hconfig'] at hgo
  exact ⟨hevents', fun entry hentry => (hsound'.entries entry hentry).2,
    (onCourse_iff_inStep hevents').mp hcourse', hgo (-1), hgo 1, hgo⟩

/-- A router with one route, of two strings, at a path. -/
def pair? (start : Text) : Option Router :=
  (Pattern.parse "/{a}/{b}".toList).toOption.bind fun pattern =>
    (RouteTable.empty.insert ⟨"pair".toList, pattern⟩).toOption.bind fun table =>
      (new table (History.new start) {}).toOption

/-- Such a router is a new one over a plain table. -/
theorem exists_of_pair? {start : Text} (h : pair? start = some r) :
    ∃ table, RouteTable.IsPlain table ∧ new table (History.new start) {} = .ok r := by
  obtain ⟨pattern, hpattern, h⟩ := Option.bind_eq_some_iff.mp h
  obtain ⟨table, htable, hnew⟩ := Option.bind_eq_some_iff.mp h
  have hplain := Pattern.isPlain_of_parse_pair (toOption_eq_some_iff.mp hpattern)
  exact ⟨table, RouteTable.isPlain_empty.insert hplain (toOption_eq_some_iff.mp htable),
    toOption_eq_some_iff.mp hnew⟩

/-- A result that is no failure is nothing but that. -/
theorem eq_ok_of_isOk {result : Except NavigationError Unit} (h : result.isOk) :
    result = .ok () := by
  cases result with
  | error e => cases h
  | ok done => rfl

/-- A router that refuses nothing never fails to move. -/
theorem inStep_run_pair :
    ∃ table r, RouteTable.IsPlain table ∧ new table (History.new "/a/b".toList) {} = .ok r ∧
      (r.run [.push (.url "/c/%2e".toList), .back, .subscribe]).history.events = [] ∧
      ∀ delta, ((r.run [.push (.url "/c/%2e".toList), .back, .subscribe]).go delta).result =
        .ok () := by
  have hsome : (pair? "/a/b".toList).isSome := by decide +kernel
  obtain ⟨r, hr⟩ := Option.isSome_iff_exists.mp hsome
  obtain ⟨table, htable, hnew⟩ := exists_of_pair? hr
  have hops : ∀ op ∈ [Op.push (.url "/c/%2e".toList), .back, .subscribe], op.IsOwn := by
    simp [Op.IsOwn]
  obtain ⟨hevents, -, -, -, -, hgo⟩ := inStep_run htable rfl hnew hops
  refine ⟨table, r, htable, hnew, hevents, fun delta => ?_⟩
  cases hresult : ((r.run [.push (.url "/c/%2e".toList), .back, .subscribe]).go delta).result with
  | error e => exact absurd (hgo delta e hresult).2 (by decide)
  | ok done => rfl

/-- **After handling its events, a router is in step exactly if it was on course**, as it is if
no navigation landed while an event was waiting.  The moves of a user wait as events until they are
handled; what such an event tells is where the move led, not where the history is by then. -/
theorem inStep_sync_run_iff {table : RouteTable} {start : Text} {config : RouterConfig}
    (htable : table.IsPlain) (hstart : start.head? = some '/')
    (hnew : new table (History.new start) config = .ok r) {ops : List Op}
    (hops : ∀ op ∈ ops, op.IsOwnOrMove) (hok : (r.run ops).sync.result = .ok ()) :
    ((r.run ops).sync.router.InStep ↔ (r.run ops).OnCourse) ∧
      (r.Settles ops → (r.run ops).sync.router.InStep) := by
  obtain ⟨hsound, hevents, hstep, -⟩ := new_inStep htable hstart hnew
  have hiff : (r.run ops).sync.router.InStep ↔ (r.run ops).OnCourse := by
    rw [← (hsound.run hops).onCourse_sync_iff, onCourse_iff_inStep]
    exact (hsound.run hops).drained.ok hok
  exact ⟨hiff, fun hsettles => hiff.mpr
    (hsound.onCourse_run ((onCourse_iff_inStep hevents).mpr hstep) hops hsettles)⟩

/-- A user moves back, and the router follows. -/
theorem inStep_sync_run_pair :
    ∃ table r, RouteTable.IsPlain table ∧ new table (History.new "/a/a".toList) {} = .ok r ∧
      (r.run [.push (.url "/a/b".toList), .history .back]).sync.result = .ok () ∧
      (r.run [.push (.url "/a/b".toList), .history .back]).sync.router.InStep := by
  have hany : (pair? "/a/a".toList).any fun r =>
      (r.run [.push (.url "/a/b".toList), .history .back]).sync.result.isOk := by decide +kernel
  obtain ⟨r, hr, hok⟩ := (Option.any_eq_true _ _).mp hany
  obtain ⟨table, htable, hnew⟩ := exists_of_pair? hr
  have hresult := eq_ok_of_isOk hok
  have hsettles : r.Settles [.push (.url "/a/b".toList), .history .back] :=
    ⟨fun _ => (new_inStep htable rfl hnew).2.1, by rintro ⟨⟩, trivial⟩
  exact ⟨table, r, htable, hnew, hresult,
    (inStep_sync_run_iff htable rfl hnew (by simp [Op.IsOwnOrMove, Op.IsOwn]) hresult).2 hsettles⟩

/-- The router is taken off course by a navigation that lands before the move of a user is
handled: it follows the move afterwards, while the history stays where the navigation led. -/
theorem not_inStep_of_late_event :
    ∃ table r, RouteTable.IsPlain table ∧ new table (History.new "/a/a".toList) {} = .ok r ∧
      (r.run [.push (.url "/a/b".toList), .history .back,
        .push (.url "/b/a".toList)]).sync.result = .ok () ∧
      ¬(r.run [.push (.url "/a/b".toList), .history .back,
        .push (.url "/b/a".toList)]).sync.router.InStep := by
  have hany : (pair? "/a/a".toList).any fun r =>
      let o := (r.run [.push (.url "/a/b".toList), .history .back, .push (.url "/b/a".toList)]).sync
      o.result.isOk && !decide o.router.InStep := by decide +kernel
  obtain ⟨r, hr, hany⟩ := (Option.any_eq_true _ _).mp hany
  obtain ⟨table, htable, hnew⟩ := exists_of_pair? hr
  obtain ⟨hok, hstep⟩ := Bool.and_eq_true_iff.mp hany
  exact ⟨table, r, htable, hnew, eq_ok_of_isOk hok, by simpa using hstep⟩

end Router
end Routing
