/-
# Histories as zippers

A history keeps all its entries in one list, with the place of the current one.  What it stands
for is a zipper, the current entry between those before it and those behind it, and a queue of
events (`Browsing`).  A zipper is moved one entry at a time, and it cannot be moved beyond its ends.

A history does to the zipper and the queue what each step says (`Depicts.perform`), so it acts as
one after every run (`actsAsZipper_run`): whatever was queued is either taken, in order, or waiting.

The place of the current entry is the length of the past (`History.Depicts`).  A move by several
entries is one comparison of numbers for the history and a repeated move for the zipper; the two
agree because each single move takes one entry of one side, keeps all entries, and stops when that
side is empty (`IsUnitMove`).  Both directions have this in common, and the rest is proved once for
either.
-/

import Mathlib.Algebra.Group.Nat.Defs
import Mathlib.Algebra.Ring.Int.Defs
import Routing.Proofs.Router.Run

namespace Routing

/-! ### The zipper and its moves -/

/-- The current entry between those before it and those behind it. -/
structure Zipper where
  /-- The entries before the current one, the nearest first. -/
  past : List Url
  /-- The current entry. -/
  current : Url
  /-- The entries behind the current one, the nearest first. -/
  future : List Url

namespace Zipper

/-- All entries, the oldest first. -/
def entries (z : Zipper) : List Url := z.past.reverse ++ z.current :: z.future

/-- The entry that a reference leads to.  One that names a host leads nowhere. -/
def resolve? (z : Zipper) (url : Text) : Option Url :=
  if ['/', '/'] <+: url then none else z.current.join url

/-- A further entry behind the current one, in place of those that were there. -/
def push (z : Zipper) (entry : Url) : Zipper := ⟨z.current :: z.past, entry, []⟩

/-- Another entry in place of the current one. -/
def replace (z : Zipper) (entry : Url) : Zipper := { z with current := entry }

/-- The entry before the current one becomes the current one. -/
def back? : Zipper → Option Zipper
  | ⟨[], _, _⟩ => none
  | ⟨entry :: past, current, future⟩ => some ⟨past, entry, current :: future⟩

/-- The entry behind the current one becomes the current one. -/
def forward? : Zipper → Option Zipper
  | ⟨_, _, []⟩ => none
  | ⟨past, current, entry :: future⟩ => some ⟨current :: past, entry, future⟩

/-- A move that is made a number of times. -/
def repeat? (move : Zipper → Option Zipper) : Nat → Zipper → Option Zipper
  | 0, z => some z
  | n + 1, z => (move z).bind (repeat? move n)

/-- A move by a number of entries, backwards if it is negative.  A move by none is no move. -/
def move? (z : Zipper) (delta : Int) : Option Zipper :=
  if delta = 0 then none
  else if delta < 0 then repeat? back? delta.natAbs z
  else repeat? forward? delta.natAbs z

/-- There are enough entries on the side that a move leads to. -/
def Reaches (z : Zipper) (delta : Int) : Prop :=
  delta.natAbs ≤ if delta < 0 then z.past.length else z.future.length

/-- A zipper is told by its entries and the place of the current one. -/
theorem eq_of_entries {z z' : Zipper} (h : z.entries = z'.entries)
    (hlength : z.past.length = z'.past.length) : z = z' := by
  obtain ⟨past, current, future⟩ := z
  obtain ⟨past', current', future'⟩ := z'
  obtain ⟨hpast, hrest⟩ := List.append_inj h (by simpa using hlength)
  obtain ⟨rfl, rfl⟩ := List.cons.inj hrest
  obtain rfl := List.reverse_inj.mp hpast
  rfl

/-- The entries are those of the past, the current one and those of the future. -/
theorem length_entries (z : Zipper) :
    z.entries.length = z.past.length + 1 + z.future.length := by
  rw [entries, List.length_append, List.length_reverse, List.length_cons]
  omega

/-- A move of one entry, of which `left` are possible, takes one of them and keeps the entries. -/
structure IsUnitMove (move : Zipper → Option Zipper) (left : Zipper → Nat) : Prop where
  /-- Where none is left, the move is not made. -/
  stops : ∀ z, left z = 0 → move z = none
  /-- Otherwise it is, and one less is left. -/
  moves : ∀ z n, left z = n + 1 → ∃ z', move z = some z' ∧ z'.entries = z.entries ∧ left z' = n

/-- A move back takes one entry of the past. -/
theorem isUnitMove_back? : IsUnitMove back? (·.past.length) where
  stops := by
    rintro ⟨past, current, future⟩ hleft
    obtain rfl := List.eq_nil_of_length_eq_zero hleft
    rfl
  moves := by
    rintro ⟨past, current, future⟩ n hleft
    obtain ⟨entry, past, rfl⟩ := List.exists_cons_of_length_eq_add_one hleft
    exact ⟨⟨past, entry, current :: future⟩, rfl, by simp [entries], Nat.succ.inj hleft⟩

/-- A move forward takes one entry of the future. -/
theorem isUnitMove_forward? : IsUnitMove forward? (·.future.length) where
  stops := by
    rintro ⟨past, current, future⟩ hleft
    obtain rfl := List.eq_nil_of_length_eq_zero hleft
    rfl
  moves := by
    rintro ⟨past, current, future⟩ n hleft
    obtain ⟨entry, future, rfl⟩ := List.exists_cons_of_length_eq_add_one hleft
    exact ⟨⟨current :: past, entry, future⟩, rfl, by simp [entries], Nat.succ.inj hleft⟩

/-- A move is made a number of times exactly if so many are left. -/
theorem IsUnitMove.repeat? {move : Zipper → Option Zipper} {left : Zipper → Nat}
    (h : IsUnitMove move left) (n : Nat) (z : Zipper) :
    (n ≤ left z → ∃ z', Zipper.repeat? move n z = some z' ∧ z'.entries = z.entries ∧
      left z' + n = left z) ∧
    (left z < n → Zipper.repeat? move n z = none) := by
  induction n generalizing z with
  | zero => exact ⟨fun _ => ⟨z, rfl, rfl, rfl⟩, fun hlt => absurd hlt (Nat.not_lt_zero _)⟩
  | succ n ih =>
    rw [Zipper.repeat?]
    cases hleft : left z with
    | zero =>
      rw [h.stops z hleft]
      exact ⟨fun hle => absurd hle (Nat.not_succ_le_zero n), fun _ => rfl⟩
    | succ k =>
      obtain ⟨z', hz', hentries, hk⟩ := h.moves z k hleft
      obtain ⟨hmoves, hstops⟩ := ih z'
      rw [hk, hentries] at hmoves
      rw [hk] at hstops
      rw [hz', Option.bind_some]
      refine ⟨fun hle => ?_, fun hlt => hstops (Nat.lt_of_succ_lt_succ hlt)⟩
      obtain ⟨z'', hz'', hsame, hsum⟩ := hmoves (Nat.le_of_succ_le_succ hle)
      exact ⟨z'', hz'', hsame, congrArg (· + 1) hsum⟩

/-- **A move leads to the entry that is so many places away**, if there is one. -/
theorem move?_eq (z : Zipper) {delta : Int} (hdelta : delta ≠ 0) :
    (z.Reaches delta → ∃ z', z.move? delta = some z' ∧ z'.entries = z.entries ∧
      (z'.past.length : Int) = z.past.length + delta) ∧
    (¬z.Reaches delta → z.move? delta = none) := by
  obtain ⟨hback, hback'⟩ := isUnitMove_back?.repeat? delta.natAbs z
  obtain ⟨hforward, hforward'⟩ := isUnitMove_forward?.repeat? delta.natAbs z
  unfold Reaches move?
  rw [if_neg hdelta]
  split
  case isTrue hneg =>
    refine ⟨fun h => ?_, fun h => hback' (Nat.lt_of_not_le h)⟩
    obtain ⟨z', hz', hsame, hsum⟩ := hback h
    exact ⟨z', hz', hsame, by omega⟩
  case isFalse hneg =>
    refine ⟨fun h => ?_, fun h => hforward' (Nat.lt_of_not_le h)⟩
    obtain ⟨z', hz', hsame, hsum⟩ := hforward h
    have hlength := congrArg List.length hsame
    rw [length_entries, length_entries] at hlength
    exact ⟨z', hz', hsame, by omega⟩

/-- Going by minus one is going back. -/
theorem move?_neg_one (z : Zipper) : z.move? (-1) = z.back? := by
  show z.back?.bind some = _
  exact Option.bind_fun_some _

/-- Going by one is going forward. -/
theorem move?_one (z : Zipper) : z.move? 1 = z.forward? := by
  show z.forward?.bind some = _
  exact Option.bind_fun_some _

/-- The zipper after a step. -/
def perform (z : Zipper) : HistoryStep → Zipper
  | .push url => (z.resolve? url).elim z z.push
  | .replace url => (z.resolve? url).elim z z.replace
  | .go delta => (z.move? delta).getD z
  | .back => z.back?.getD z
  | .forward => z.forward?.getD z
  | .emit _ | .poll => z

/-- A move that is made tells the URL that it led to. -/
def popped (moved : Option Zipper) : List HistoryEvent :=
  moved.toList.map fun z => .pop z.current.pathAndAfter

/-- The events that a step queues. -/
def queues (z : Zipper) : HistoryStep → List HistoryEvent
  | .go delta => popped (z.move? delta)
  | .back => popped z.back?
  | .forward => popped z.forward?
  | .emit event => [event]
  | .push _ | .replace _ | .poll => []

end Zipper

/-! ### The zipper with what waits to be heard of -/

/-- A zipper with the events that are waiting, the oldest first. -/
structure Browsing where
  /-- The entries. -/
  zipper : Zipper
  /-- The events. -/
  waiting : List HistoryEvent

namespace Browsing

/-- One entry, which is `/` if the text is no reference, and no events. -/
def new (start : Text) : Browsing :=
  ⟨⟨[], (History.origin.join start).getD History.origin, []⟩, []⟩

/-- The event that a step takes, and what is left. -/
def perform (b : Browsing) : HistoryStep → Option HistoryEvent × Browsing
  | .poll => (b.waiting.head?, { b with waiting := b.waiting.tail })
  | step => (none, ⟨b.zipper.perform step, b.waiting ++ b.zipper.queues step⟩)

/-- The events that steps take, in order, and what is left after them. -/
def run (b : Browsing) : List HistoryStep → List HistoryEvent × Browsing
  | [] => ([], b)
  | step :: steps =>
    let after := (b.perform step).2.run steps
    ((b.perform step).1.toList ++ after.1, after.2)

/-- The events that steps queue, in order. -/
def queued (b : Browsing) : List HistoryStep → List HistoryEvent
  | [] => []
  | step :: steps => b.zipper.queues step ++ (b.perform step).2.queued steps

/-- A step loses no event and makes none up. -/
theorem waiting_perform (b : Browsing) (step : HistoryStep) :
    b.waiting ++ b.zipper.queues step =
      (b.perform step).1.toList ++ (b.perform step).2.waiting := by
  cases step with
  | poll =>
    rw [Zipper.queues, List.append_nil]
    cases b with
    | mk zipper waiting => cases waiting <;> rfl
  | _ => rfl

/-- **Whatever was queued is taken, in order, or is waiting.**  This is the queue as one equation,
from which nothing is lost, doubled or taken in another order. -/
theorem waiting_run (b : Browsing) (steps : List HistoryStep) :
    b.waiting ++ b.queued steps = (b.run steps).1 ++ (b.run steps).2.waiting := by
  induction steps generalizing b with
  | nil => exact List.append_nil _
  | cons step steps ih =>
    rw [queued, ← List.append_assoc, waiting_perform, List.append_assoc, ih, run,
      List.append_assoc]

end Browsing

/-! ### What a history stands for -/

namespace History

variable {h : History} {b : Browsing}

/-- The events that steps take, in order, and the history after them. -/
def run (h : History) : List HistoryStep → List HistoryEvent × History
  | [] => ([], h)
  | step :: steps =>
    let after := (step.perform h).2.run steps
    ((step.perform h).1.toList ++ after.1, after.2)

/-- The history stands for the zipper and the queue. -/
structure Depicts (h : History) (b : Browsing) : Prop where
  /-- The entries are those of the zipper. -/
  entries : h.entries = b.zipper.entries
  /-- The current entry is the one of the zipper. -/
  index : h.index = b.zipper.past.length
  /-- The events are those of the queue. -/
  events : h.events = b.waiting

/-- A history stands for one zipper and one queue. -/
theorem Depicts.unique {b' : Browsing} (hd : h.Depicts b) (hd' : h.Depicts b') : b' = b := by
  obtain ⟨zipper, waiting⟩ := b
  obtain ⟨zipper', waiting'⟩ := b'
  obtain rfl : zipper' = zipper :=
    Zipper.eq_of_entries (hd'.entries.symm.trans hd.entries) (hd'.index.symm.trans hd.index)
  obtain rfl : waiting' = waiting := hd'.events.symm.trans hd.events
  rfl

/-- A new history depicts a zipper with one entry and nothing waiting. -/
theorem depicts_new (start : Text) : (new start).Depicts (Browsing.new start) := ⟨rfl, rfl, rfl⟩

namespace Depicts

/-- The current entry of the history is that of the zipper. -/
theorem current (hd : h.Depicts b) : h.current = b.zipper.current := by
  have hget : h.entries[h.index]? = some b.zipper.current := by
    rw [hd.entries, hd.index, Zipper.entries, List.getElem?_append_right (by simp)]
    simp
  exact (List.getElem?_eq_some_iff.mp hget).2

/-- The current URL is that of the entry of the zipper. -/
theorem currentPath (hd : h.Depicts b) : h.currentPath = b.zipper.current.pathAndAfter := by
  rw [History.currentPath, hd.current]

/-- The history is as long as the zipper. -/
theorem length (hd : h.Depicts b) :
    h.length = b.zipper.past.length + 1 + b.zipper.future.length := by
  rw [History.length, hd.entries, Zipper.length_entries]

/-- A URL leads to the same entry from both. -/
theorem resolve? (hd : h.Depicts b) (url : Text) : h.resolve? url = b.zipper.resolve? url := by
  unfold History.resolve? Zipper.resolve?
  split
  case h_1 s => rw [if_pos ⟨s, rfl⟩]
  case h_2 hne =>
    rw [if_neg fun ⟨s, hs⟩ => hne s hs.symm, hd.current]

/-- A reference that leads nowhere changes nothing. -/
theorem rejected (hd : h.Depicts b) {url : Text} (hurl : b.zipper.resolve? url = none) :
    h.push url = h ∧ h.replace url = h := by
  rw [History.push, History.replace, hd.resolve?, hurl]
  exact ⟨rfl, rfl⟩

/-- Pushing an entry depicts pushing it. -/
theorem push (hd : h.Depicts b) {url : Text} {entry : Url}
    (hurl : b.zipper.resolve? url = some entry) :
    (h.push url).Depicts ⟨b.zipper.push entry, b.waiting⟩ := by
  rw [History.push, hd.resolve?, hurl]
  refine ⟨?_, congrArg (· + 1) hd.index, hd.events⟩
  dsimp only
  have hkept : b.zipper.entries =
      (b.zipper.current :: b.zipper.past).reverse ++ b.zipper.future := by simp [Zipper.entries]
  rw [hd.entries, hd.index, hkept, List.take_left' (by simp)]
  rfl

/-- Replacing the current entry depicts replacing it. -/
theorem replace (hd : h.Depicts b) {url : Text} {entry : Url}
    (hurl : b.zipper.resolve? url = some entry) :
    (h.replace url).Depicts ⟨b.zipper.replace entry, b.waiting⟩ := by
  rw [History.replace, hd.resolve?, hurl]
  refine ⟨?_, hd.index, hd.events⟩
  dsimp only
  rw [hd.entries, hd.index, Zipper.entries, List.set_append_right _ _ (by simp)]
  simp [Zipper.entries, Zipper.replace]

/-- A move that is out of reach, or leads nowhere, changes nothing. -/
theorem go_of_not_reaches (hd : h.Depicts b) {delta : Int}
    (hdelta : delta = 0 ∨ ¬b.zipper.Reaches delta) : h.go delta = h := by
  have hindex := hd.index
  have hlength : h.entries.length = _ := hd.length
  unfold Zipper.Reaches at hdelta
  unfold go
  dsimp only
  split
  · rfl
  · rw [dif_neg]
    split at hdelta <;> omega

/-- A move within reach makes another entry the current one and queues its URL. -/
theorem go_of_reaches (hd : h.Depicts b) {delta : Int} (hdelta : delta ≠ 0)
    (hreaches : b.zipper.Reaches delta) :
    ∃ z, b.zipper.move? delta = some z ∧ z.entries = b.zipper.entries ∧
      (z.past.length : Int) = b.zipper.past.length + delta ∧
      (h.go delta).Depicts ⟨z, b.waiting ++ [.pop z.current.pathAndAfter]⟩ := by
  obtain ⟨z, hz, hentries, hplace⟩ := (b.zipper.move?_eq hdelta).1 hreaches
  have hindex := hd.index
  have hlength : h.entries.length = _ := hd.length
  unfold Zipper.Reaches at hreaches
  refine ⟨z, hz, hentries, hplace, ?_⟩
  have hlt : ((h.index : Int) + delta).toNat < h.entries.length := by split at hreaches <;> omega
  have hgo : h.go delta = h.moveTo ((h.index : Int) + delta).toNat hlt := by
    unfold go
    dsimp only
    rw [if_neg (by split at hreaches <;> omega), dif_pos hlt]
  have hmoved : ({ h with index := ((h.index : Int) + delta).toNat, index_lt := hlt } :
      History).Depicts ⟨z, b.waiting⟩ :=
    ⟨hd.entries.trans hentries.symm, by dsimp only; omega, hd.events⟩
  rw [hgo, moveTo, hmoved.currentPath]
  exact ⟨hmoved.entries, hmoved.index, congrArg (· ++ _) hmoved.events⟩

/-- **A move does to the history what it does to the zipper.** -/
theorem go (hd : h.Depicts b) (delta : Int) :
    (h.go delta).Depicts
      ⟨(b.zipper.move? delta).getD b.zipper, b.waiting ++ Zipper.popped (b.zipper.move? delta)⟩ := by
  by_cases hdelta : delta = 0
  · rw [hd.go_of_not_reaches (.inl hdelta), Zipper.move?, if_pos hdelta]
    exact ⟨hd.entries, hd.index, hd.events.trans (List.append_nil _).symm⟩
  by_cases hreaches : b.zipper.Reaches delta
  · obtain ⟨z, hz, -, -, hgo⟩ := hd.go_of_reaches hdelta hreaches
    rw [hz]
    exact hgo
  · rw [hd.go_of_not_reaches (.inr hreaches), (b.zipper.move?_eq hdelta).2 hreaches]
    exact ⟨hd.entries, hd.index, hd.events.trans (List.append_nil _).symm⟩

/-- **A step takes the same event from a history and from what it stands for**, and does the
same to both. -/
theorem perform (hd : h.Depicts b) (step : HistoryStep) :
    (step.perform h).1 = (b.perform step).1 ∧ (step.perform h).2.Depicts (b.perform step).2 := by
  -- Recording queues nothing.
  have hquiet {h' : History} {z : Zipper} (hd' : h'.Depicts ⟨z, b.waiting⟩) :
      h'.Depicts ⟨z, b.waiting ++ []⟩ := by rwa [List.append_nil]
  cases step with
  | push url =>
    refine ⟨rfl, hquiet ?_⟩
    rw [HistoryStep.perform, Zipper.perform]
    cases hurl : b.zipper.resolve? url with
    | none =>
      rw [(hd.rejected hurl).1]
      exact hd
    | some entry => exact hd.push hurl
  | replace url =>
    refine ⟨rfl, hquiet ?_⟩
    rw [HistoryStep.perform, Zipper.perform]
    cases hurl : b.zipper.resolve? url with
    | none =>
      rw [(hd.rejected hurl).2]
      exact hd
    | some entry => exact hd.replace hurl
  | go delta => exact ⟨rfl, hd.go delta⟩
  | back =>
    have hgo := hd.go (-1)
    rw [Zipper.move?_neg_one] at hgo
    exact ⟨rfl, hgo⟩
  | forward =>
    have hgo := hd.go 1
    rw [Zipper.move?_one] at hgo
    exact ⟨rfl, hgo⟩
  | emit event => exact ⟨rfl, hd.entries, hd.index, congrArg (· ++ [event]) hd.events⟩
  | poll =>
    obtain ⟨zipper, waiting⟩ := b
    have hevents : h.events = waiting := hd.events
    rw [HistoryStep.perform, poll, hevents, Browsing.perform]
    cases waiting with
    | nil => exact ⟨rfl, hd⟩
    | cons event waiting => exact ⟨rfl, hd.entries, hd.index, rfl⟩

/-- Steps take the same events from a history and from what it stands for. -/
theorem run (hd : h.Depicts b) (steps : List HistoryStep) :
    (h.run steps).1 = (b.run steps).1 ∧ (h.run steps).2.Depicts (b.run steps).2 := by
  induction steps generalizing h b with
  | nil => exact ⟨rfl, hd⟩
  | cons step steps ih =>
    obtain ⟨hevent, hstep⟩ := hd.perform step
    obtain ⟨hevents, hlast⟩ := ih hstep
    rw [History.run, Browsing.run]
    exact ⟨by rw [hevent, hevents], hlast⟩

end Depicts

/-- What a history shows is what the zipper and the queue show that it stands for, and what a step
does to it is what the step does to them. -/
structure ActsAsZipper (h : History) (b : Browsing) : Prop extends h.Depicts b where
  /-- There is no other zipper and queue that the history stands for. -/
  unique : ∀ b', h.Depicts b' → b' = b
  /-- There is an entry. -/
  entries_ne_nil : h.entries ≠ []
  /-- One of the entries is the current one. -/
  index_lt : h.index < h.entries.length
  /-- All entries are counted. -/
  length : h.length = b.zipper.past.length + 1 + b.zipper.future.length
  /-- One can go back to the entries before the current one. -/
  canGoBack : h.canGoBack ↔ b.zipper.past ≠ []
  /-- One can go forward to the entries behind the current one. -/
  canGoForward : h.canGoForward ↔ b.zipper.future ≠ []
  /-- The URL is the one of the current entry. -/
  currentPath : h.currentPath = b.zipper.current.pathAndAfter
  /-- A move within reach is made, and queues the URL that it leads to behind what is waiting. -/
  go : ∀ delta ≠ 0, b.zipper.Reaches delta → ∃ z, b.zipper.move? delta = some z ∧
    z.entries = b.zipper.entries ∧ (z.past.length : Int) = b.zipper.past.length + delta ∧
    (h.go delta).Depicts ⟨z, b.waiting ++ [.pop (h.go delta).currentPath]⟩
  /-- Any other move changes nothing. -/
  stay : ∀ delta, delta = 0 ∨ ¬b.zipper.Reaches delta → h.go delta = h
  /-- Pushing puts an entry behind the current one and drops those that were there. -/
  push : ∀ url entry, b.zipper.resolve? url = some entry →
    (h.push url).Depicts ⟨⟨b.zipper.current :: b.zipper.past, entry, []⟩, b.waiting⟩
  /-- Replacing changes the current entry alone. -/
  replace : ∀ url entry, b.zipper.resolve? url = some entry →
    (h.replace url).Depicts ⟨⟨b.zipper.past, entry, b.zipper.future⟩, b.waiting⟩
  /-- A URL that leads nowhere changes nothing. -/
  rejected : ∀ url, b.zipper.resolve? url = none → h.push url = h ∧ h.replace url = h

/-- What is known of a history that stands for a zipper and a queue, put together. -/
theorem Depicts.actsAsZipper (hd : h.Depicts b) : h.ActsAsZipper b where
  toDepicts := hd
  unique := fun _ => hd.unique
  entries_ne_nil := List.ne_nil_of_length_pos (Nat.zero_lt_of_lt h.index_lt)
  index_lt := h.index_lt
  length := hd.length
  canGoBack := by
    rw [History.canGoBack, decide_eq_true_iff, hd.index, List.length_pos_iff]
  canGoForward := by
    have hlength : h.entries.length = _ := hd.length
    rw [History.canGoForward, decide_eq_true_iff, hd.index, hlength, ← List.length_pos_iff]
    omega
  currentPath := hd.currentPath
  go := fun delta hdelta hreaches => by
    obtain ⟨z, hz, hentries, hplace, hgo⟩ := hd.go_of_reaches hdelta hreaches
    refine ⟨z, hz, hentries, hplace, ?_⟩
    rwa [hgo.currentPath]
  stay := fun _ => hd.go_of_not_reaches
  push := fun _ _ => hd.push
  replace := fun _ _ => hd.replace
  rejected := fun _ => hd.rejected

/-- **After any steps a history acts as the zipper and the queue after the same steps.**  The steps
take the same events from both; and what they queue, they take in order or leave waiting.  Nothing
is asked of the text at the start nor of the URLs and distances of the steps, as a history that was
built has its index within its entries. -/
theorem actsAsZipper_run (start : Text) (steps : List HistoryStep) :
    ((new start).run steps).2.ActsAsZipper ((Browsing.new start).run steps).2 ∧
    ((new start).run steps).1 = ((Browsing.new start).run steps).1 ∧
    (Browsing.new start).queued steps =
      ((new start).run steps).1 ++ ((new start).run steps).2.events := by
  obtain ⟨hevents, hd⟩ := (depicts_new start).run steps
  refine ⟨hd.actsAsZipper, hevents, ?_⟩
  rw [hevents, hd.events]
  exact Browsing.waiting_run (Browsing.new start) steps

/-! ### Indices that are machine numbers -/

/-- The sum of an index and a signed number, if it is an index of 64 bits. -/
def checkedAdd (index : Nat) (delta : Int) : Option Nat :=
  if 0 ≤ index + delta ∧ index + delta < 2 ^ 64 then some (index + delta).toNat else none

/-- **Indices of 64 bits are enough.**  A sum that does not fit is out of reach anyway, however
large the number is that a move is made by. -/
theorem go_of_checkedAdd (hlength : h.length ≤ 2 ^ 64) (delta : Int) :
    (checkedAdd h.index delta = none → h.go delta = h) ∧
    ∀ target, checkedAdd h.index delta = some target →
      h.go delta =
        if index_lt : delta ≠ 0 ∧ target < h.entries.length then h.moveTo target index_lt.2
        else h := by
  rw [History.length] at hlength
  unfold go checkedAdd
  dsimp only
  constructor
  · intro hnone
    have hout : ¬(0 ≤ (h.index : Int) + delta ∧ (h.index : Int) + delta < 2 ^ 64) := by
      simpa using hnone
    split
    · rfl
    · exact dif_neg (by omega)
  · intro target hsome
    obtain ⟨hfits, htarget⟩ := Option.ite_none_right_eq_some.mp hsome
    obtain rfl := Option.some.inj htarget
    by_cases hzero : delta = 0
    · rw [if_pos (.inl hzero), dif_neg fun hmoves => hmoves.1 hzero]
    · rw [if_neg (by omega)]
      by_cases hlt : ((h.index : Int) + delta).toNat < h.entries.length
      · rw [dif_pos hlt, dif_pos ⟨hzero, hlt⟩]
      · rw [dif_neg hlt, dif_neg fun hmoves => hlt hmoves.2]

end History
end Routing
