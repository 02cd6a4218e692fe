/-
# What a navigation answers

A push, a replacement and an event all lead to a target in one way: the target is located, then its
URL is compared with the current one, and only then the history records it and the listeners are
called.  So the answer tells what has happened (`Answers`).  Unless the router lands at another
URL, it is what it was, with its history, its queue and its listeners, and no listener was called;
and it does not land only if the target has no location, or leads to where the router is.

A run goes as it would without the navigations in it that do not land (`run_landing`).

There are four ways for a navigation to end, by whether the target is located, whether its URL is
the current one, and what is to be done with duplicates.  All clauses of `Answers` are settled in
each of them separately (`answers_of_error`, `answers_of_ignored`, `answers_of_refused`,
`answers_of_ne`), so that `answers_navigateTo` is left with the choice.
-/

import Routing.Proofs.Router.Listening

namespace Routing

/-- Where the event leads. -/
def HistoryEvent.target : HistoryEvent → NavigationTarget
  | pop url | push url => .url url

/-- A failure to locate a target. -/
inductive NavigationError.IsOfLocating : NavigationError → Prop where
  /-- There is no such route. -/
  | unknownRoute (name : Text) : IsOfLocating (.unknownRoute name)
  /-- No route matches. -/
  | noMatch (url : Text) : IsOfLocating (.noMatch url)
  /-- The data is not written. -/
  | encode (cause : EncodeError) : IsOfLocating (.encode cause)

/-- A route fails to locate data because it does not encode it, or because nothing matches what it
is encoded to. -/
theorem Route.isOfLocating {r : Route} {data : RouteData} {e : NavigationError}
    (h : r.locate data = .error e) : e.IsOfLocating := by
  rw [locate] at h
  split at h
  case h_1 cause _ =>
    obtain rfl := Except.error.inj h
    exact .encode cause
  case h_2 =>
    dsimp only at h
    split at h
    case h_1 =>
      obtain rfl := Except.error.inj h
      exact .noMatch _
    case h_2 => cases h

/-- A name that is not found is an unknown route. -/
theorem RouteTable.isOfLocating_of_get {t : RouteTable} {name : Text} {e : NavigationError}
    (h : t.get name = .error e) : e.IsOfLocating := by
  rw [get] at h
  split at h
  case h_1 => cases h
  case h_2 =>
    obtain rfl := Except.error.inj h
    exact .unknownRoute name

/-- Resolving a URL fails like the route that it goes to. -/
theorem RouteTable.isOfLocating_of_resolve {t : RouteTable} {url : Text} {strategy : MatchStrategy}
    {e : NavigationError} (h : t.resolve url strategy = .error e) : e.IsOfLocating := by
  rw [resolve] at h
  split at h
  case h_1 => cases h
  case h_2 r data _ =>
    cases hlocate : r.locate data with
    | error cause =>
      rw [hlocate] at h
      obtain rfl := Except.error.inj h
      exact Route.isOfLocating hlocate
    | ok location =>
      rw [hlocate] at h
      cases h

namespace Router

variable {r : Router} {target : NavigationTarget}

/-- **A target fails to be located because of its route, its URL or its data**, and never as a
duplicate. -/
theorem isOfLocating {e : NavigationError} (h : r.locate target = .error e) : e.IsOfLocating := by
  cases target with
  | named name data =>
    rw [locate] at h
    cases hget : r.table.get name with
    | error cause =>
      rw [hget] at h
      obtain rfl := Except.error.inj h
      exact RouteTable.isOfLocating_of_get hget
    | ok route =>
      rw [hget] at h
      exact Route.isOfLocating h
  | url url =>
    rw [locate] at h
    split at h
    case h_1 hresolve =>
      obtain rfl := Except.error.inj h
      exact RouteTable.isOfLocating_of_resolve hresolve
    case h_2 =>
      obtain rfl := Except.error.inj h
      exact .noMatch url
    case h_3 => cases h

/-- The target leads to where the router is. -/
def IsAtTarget (r : Router) (target : NavigationTarget) : Prop :=
  ∃ location, r.locate target = .ok location ∧ location.fullPath = r.location.fullPath

/-- What a navigation to a target answers, and what it has done then. -/
structure Answers (r : Router) (target : NavigationTarget)
    (o : Outcome (Except NavigationError Bool)) : Prop where
  /-- Unless the router lands, it is as it was, and no listener was called. -/
  noTrace : o.result ≠ .ok true → o.router = r ∧ o.heard = []
  /-- The router lands at another URL, and nowhere else. -/
  landed_iff : o.result = .ok true ↔ ∃ location, r.locate target = .ok location ∧
    location.fullPath ≠ r.location.fullPath ∧ o.router.location = location
  /-- A duplicate is ignored where it is to be ignored. -/
  ignored_iff : o.result = .ok false ↔
    r.config.onDuplicateNavigation = .ignore ∧ r.IsAtTarget target
  /-- A duplicate is refused where it is to be refused. -/
  refused_iff : ∀ url, o.result = .error (.duplicateNavigation url) ↔
    r.config.onDuplicateNavigation = .error ∧ r.IsAtTarget target ∧ url = r.location.fullPath
  /-- All other failures are those of locating the target. -/
  failed_iff : ∀ e, e.IsOfLocating → (o.result = .error e ↔ r.locate target = .error e)
  /-- There is no failure of another kind. -/
  error : ∀ e, o.result = .error e → e.IsOfLocating ∨ ∃ url, e = .duplicateNavigation url

/-- A router that stays does not land. -/
theorem not_landed : ¬∃ location, r.locate target = .ok location ∧
    location.fullPath ≠ r.location.fullPath ∧ r.location = location := by
  rintro ⟨_, _, hne, rfl⟩
  exact hne rfl

/-- A target without location. -/
theorem answers_of_error {e : NavigationError} (h : r.locate target = .error e) :
    r.Answers target ⟨r, [], .error e⟩ := by
  have he := isOfLocating h
  have hnowhere (location : Location) : r.locate target ≠ .ok location := by simp [h]
  refine ⟨fun _ => ⟨rfl, rfl⟩, ?_, ?_, fun url => ?_, fun e' _ => ?_, fun e' he' => ?_⟩
  · exact iff_of_false (by rintro ⟨⟩) not_landed
  · exact iff_of_false (by rintro ⟨⟩) fun ⟨_, location, hlocate, _⟩ => hnowhere location hlocate
  · refine iff_of_false (fun heq => ?_) fun ⟨_, ⟨location, hlocate, _⟩, _⟩ =>
      hnowhere location hlocate
    rw [Except.error.inj heq] at he
    cases he
  · show Except.error e = _ ↔ _
    rw [h]
    exact ⟨fun heq => congrArg _ (Except.error.inj heq),
      fun heq => congrArg _ (Except.error.inj heq)⟩
  · exact .inl (Except.error.inj he' ▸ he)

section IsAtTarget

variable (h : r.IsAtTarget target)

include h

/-- A target that leads to where the router is has a location. -/
theorem IsAtTarget.locate_ne_error (e : NavigationError) : r.locate target ≠ .error e := by
  obtain ⟨location, hlocate, -⟩ := h
  simp [hlocate]

/-- A duplicate that is ignored. -/
theorem answers_of_ignored (hpolicy : r.config.onDuplicateNavigation = .ignore) :
    r.Answers target ⟨r, [], .ok false⟩ := by
  refine ⟨fun _ => ⟨rfl, rfl⟩, ?_, ?_, fun url => ?_, fun e _ => ?_, by rintro e ⟨⟩⟩
  · exact iff_of_false (by simp) not_landed
  · exact iff_of_true rfl ⟨hpolicy, h⟩
  · exact iff_of_false (by rintro ⟨⟩) (by simp [hpolicy])
  · exact iff_of_false (by rintro ⟨⟩) (h.locate_ne_error e)

/-- A duplicate that is refused. -/
theorem answers_of_refused (hpolicy : r.config.onDuplicateNavigation = .error) :
    r.Answers target ⟨r, [], .error (.duplicateNavigation r.location.fullPath)⟩ := by
  refine ⟨fun _ => ⟨rfl, rfl⟩, ?_, ?_, fun url => ?_, fun e he => ?_, fun e he => ?_⟩
  · exact iff_of_false (by rintro ⟨⟩) not_landed
  · exact iff_of_false (by rintro ⟨⟩) (by simp [hpolicy])
  · simp [hpolicy, h, eq_comm]
  · refine iff_of_false (fun heq => ?_) (h.locate_ne_error e)
    rw [← Except.error.inj heq] at he
    cases he
  · exact .inr ⟨_, (Except.error.inj he).symm⟩

end IsAtTarget

/-- A target that leads elsewhere. -/
theorem answers_of_ne {location : Location} (h : r.locate target = .ok location)
    (hne : location.fullPath ≠ r.location.fullPath) (history : History) (heard : List Call) :
    r.Answers target ⟨{ r with history, location }, heard, .ok true⟩ := by
  have hnot : ¬r.IsAtTarget target := by
    rintro ⟨found, hfound, hsame⟩
    rw [h] at hfound
    exact hne (Except.ok.inj hfound ▸ hsame)
  refine ⟨fun hresult => absurd rfl hresult, ?_, ?_, fun url => ?_, fun e _ => ?_, by rintro e ⟨⟩⟩
  · exact iff_of_true rfl ⟨location, h, hne, rfl⟩
  · exact iff_of_false (by simp) fun h => hnot h.2
  · exact iff_of_false (by rintro ⟨⟩) fun h => hnot h.2.1
  · exact iff_of_false (by rintro ⟨⟩) (by simp [h])

/-- **What a navigation answers is what it has done.** -/
theorem answers_navigateTo (r : Router) (target : NavigationTarget) (recording : Recording) :
    r.Answers target (r.navigateTo target recording) := by
  rw [navigateTo]
  cases hlocate : r.locate target with
  | error e => exact answers_of_error hlocate
  | ok location =>
    dsimp only
    rw [navigate]
    split
    case isTrue hsame =>
      have hat : r.IsAtTarget target := ⟨location, hlocate, hsame⟩
      rw [hsame]
      cases hpolicy : r.config.onDuplicateNavigation with
      | ignore => exact answers_of_ignored hat hpolicy
      | error => exact answers_of_refused hat hpolicy
    case isFalse hne => exact answers_of_ne hlocate hne _ _

/-- The handling of an event answers like any navigation. -/
theorem answers_handle (r : Router) (event : HistoryEvent) :
    r.Answers event.target (r.handle event) := by
  cases event with
  | pop url => exact answers_navigateTo r _ _
  | push url => exact answers_navigateTo r _ _

end Router

/-- The answer of a navigation that did not land. -/
def Reply.isTraceless : Reply → Bool
  | navigated (.ok landed) => !landed
  | navigated (.error _) => true
  | _ => false

/-- A navigation that does not land leaves no trace. -/
theorem Op.eq_of_isTraceless {r : Router} {op : Op} (h : (op.perform r).result.isTraceless) :
    (op.perform r).router = r ∧ (op.perform r).heard = [] := by
  have hanswers {target : NavigationTarget} {o : Outcome (Except NavigationError Bool)}
      (ho : r.Answers target o) (h : (Reply.navigated o.result).isTraceless) :
      o.router = r ∧ o.heard = [] := by
    refine ho.noTrace fun heq => ?_
    rw [heq] at h
    cases h
  cases op with
  | push target => exact hanswers (r.answers_navigateTo target .push) h
  | replace target => exact hanswers (r.answers_navigateTo target .replace) h
  | handle event => exact hanswers (r.answers_handle event) h
  | back | forward | go | sync | subscribe | unsubscribe | history => cases h

namespace Router

/-- The operations of a run without the navigations that do not land. -/
def landing (r : Router) : List Op → List Op
  | [] => []
  | op :: ops =>
    if (op.perform r).result.isTraceless then r.landing ops
    else op :: (op.perform r).router.landing ops

/-- **A run goes as it would without the navigations that do not land.**  They leave the router as
it was, so whatever comes behind them does the same. -/
theorem run_landing (r : Router) (ops : List Op) :
    r.run (r.landing ops) = r.run ops ∧ r.log (r.landing ops) = r.log ops := by
  induction ops generalizing r with
  | nil => exact ⟨rfl, rfl⟩
  | cons op ops ih =>
    rw [landing]
    split
    case isTrue h =>
      obtain ⟨hrouter, hheard⟩ := Op.eq_of_isTraceless h
      rw [run, log, hrouter, hheard]
      exact ih r
    case isFalse =>
      obtain ⟨hrun, hlog⟩ := ih (op.perform r).router
      exact ⟨hrun, congrArg ((op.perform r).heard ++ ·) hlog⟩

/-- **Failed and ignored navigations leave no trace**, in every state of a router and in every run.
A navigation is ignored or refused as a duplicate just if it leads to where the router is.  A run may
be thinned out to the navigations that landed in it, and ends in the same state behind the same
calls of the listeners. -/
theorem answers_run (r : Router) :
    (∀ target, r.Answers target (r.push target) ∧ r.Answers target (r.replace target)) ∧
    (∀ event, r.Answers event.target (r.handle event)) ∧
    ∀ ops, r.run (r.landing ops) = r.run ops ∧ r.log (r.landing ops) = r.log ops :=
  ⟨fun target => ⟨r.answers_navigateTo target .push, r.answers_navigateTo target .replace⟩,
    r.answers_handle, r.run_landing⟩

end Router
end Routing
