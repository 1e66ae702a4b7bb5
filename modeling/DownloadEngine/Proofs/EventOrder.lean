import DownloadEngine.Proofs.QuietRun
import Mathlib.Data.List.Chain
import Mathlib.Data.List.Perm.Basic

/-!
# The order of a task's status events

Every update of a task's shared record runs under the record's lock, and every change of
status publishes the record after the change; but the event goes out on the engine's broadcast
channel only after the lock is released. Another thread may take the lock in between, change
the status again and send its own event first. The start of a task sends the task's record once
the task's worker is running, taking its snapshot at that moment, so the worker's events may go
out first and the snapshot may show a later status. The channel hands its events to every
subscriber in the order they were sent.

`Broadcast` keeps the task's record, the record the start announced, the events published in
the order of their lock sections, those published and not yet sent, and those sent. A step is a
lock section (`Section`), the start's snapshot, or the send of one pending event. Under a
`careful` schedule the start announces the task before any section publishes, and no section
runs while a published event is unsent.

## Main statements

* `Section.publishes`: a lock section keeps the status and publishes no change of status, or
  moves the status along one edge and publishes exactly that change.
* `Broadcast.status_events_follow_lock_order`: in lock order the status changes walk the
  task's edges from `preparing` to the current status, every published event is sent at most
  once, and under careful schedules the channel receives them in that order.
* `Broadcast.start_snapshot_after_worker_repeats_downloading`: without that care the channel
  receives `downloading` twice, and never `preparing`.
-/

namespace DownloadEngine.Task

/-- A failure that is not refused moves a task that has not failed along the edge to `error`. -/
theorem markFailed_moves {t : Task} {message : String} (hlive : t.status ≠ .error)
    (hok : (t.markFailed message).1 = true) :
    t.status.canTransitionTo .error = true ∧ (t.markFailed message).2.status = .error := by
  have hedge : t.status.canTransitionTo .error = true := by
    rcases transition_cases t .error with ⟨hs, -⟩ | ⟨-, -, ht⟩ | ⟨h, -⟩ | ⟨h, -⟩
    · exact absurd hs hlive
    · simp [markFailed_eq, ht] at hok
    · exact h
    · exact h
  have ht := transition_of_canTransitionTo hedge
  exact ⟨hedge, by rw [markFailed_eq, if_pos ht.1]; exact ht.2⟩

end DownloadEngine.Task

namespace DownloadEngine.Controller

/-- The status an event announces, if it is a change of status. -/
def Event.status? : Event → Option Status
  | .statusChanged t => some t.status
  | _ => none

/-- The statuses of the changes of status among some events, in order. -/
def statusTrail (evs : List Event) : List Status := evs.filterMap Event.status?

@[simp] theorem statusTrail_nil : statusTrail [] = [] := rfl

@[simp] theorem statusTrail_append (evs evs' : List Event) :
    statusTrail (evs ++ evs') = statusTrail evs ++ statusTrail evs' :=
  List.filterMap_append

@[simp] theorem statusTrail_statusChanged (t : Task) :
    statusTrail [.statusChanged t] = [t.status] := rfl

@[simp] theorem statusTrail_progress (t : Task) : statusTrail [.progress t] = [] := rfl

/-- One lock section of a task's record that may publish: a change of status made by a run or
by a call, the deciding section of a completion or of a failure, or a progress update. A task is
failed at most once, by the run that ends in failure or by a resume whose thread the system
refuses, so no failure finds it failed already. -/
inductive Section : Entry → Entry → Prop where
  /-- A run starts downloading or settles as paused or cancelled; a call resumes or cancels. -/
  | transition (e : Entry) (next : Status)
      (h : next = .downloading ∨ next = .paused ∨ next = .cancelled) :
      Section e (e.transition next).2
  | completeLocked (e : Entry) (bytes : Nat) : Section e (e.completeLocked bytes).2
  | failLocked (e : Entry) (message : String) (h : e.task.status ≠ .error) :
      Section e (e.failLocked message).2
  | recordProgress (e : Entry) (downloaded total : Nat) (now : Instant) :
      Section e (e.recordProgress downloaded total now)

/-- A progress update publishes no change of status. -/
theorem statusTrail_recordProgress {e : Entry} (he : e.outbox = []) (downloaded total : Nat)
    (now : Instant) : statusTrail (e.recordProgress downloaded total now).outbox = [] := by
  unfold Entry.recordProgress
  split
  · simp [he]
  · dsimp only
    split <;> simp [Entry.publish, he]

/-- A lock section that starts with no events either keeps the status and publishes no change
of status, or moves the status along one edge and publishes that change. -/
theorem Section.publishes {e e' : Entry} (h : Section e e') (he : e.outbox = []) :
    (e'.task.status = e.task.status ∧ statusTrail e'.outbox = []) ∨
    (e.task.status.canTransitionTo e'.task.status = true ∧
      statusTrail e'.outbox = [e'.task.status]) := by
  cases h with
  | transition next =>
    rw [Entry.transition_eq]
    rcases Task.transition_cases e.task next with ⟨hs, -⟩ | ⟨-, hs, ht⟩ | ⟨hedge, -, ht⟩ |
        ⟨hedge, -, ht⟩
    · simp [hs, he]
    · simp [hs, ht, he]
    · simp [ht, hedge, Status.ne_of_canTransitionTo hedge, Entry.publish, he]
    · simp [ht, hedge, Status.ne_of_canTransitionTo hedge, Entry.publish, he]
  | completeLocked bytes =>
    unfold Entry.completeLocked
    by_cases hd : e.task.status = .downloading
    · -- a downloading task completes, along the edge to `completed`
      have hdone := Task.markCompleted_status (t := e.task.setSizes bytes e.task.totalSize) hd
      have hok := Task.markCompleted_fst_of_downloading (t := e.task.setSizes bytes e.task.totalSize) hd
      cases hm : (e.task.setSizes bytes e.task.totalSize).markCompleted with
      | mk b task =>
        simp only [hm] at hdone hok
        subst hok
        simp [hd, hdone, Entry.publish, he, Status.canTransitionTo]
    · simp [hd, he]
  | failLocked message hlive =>
    unfold Entry.failLocked
    cases hm : e.task.markFailed message with
    | mk b task =>
      cases b
      · simp [he]
      · obtain ⟨hedge, herror⟩ := Task.markFailed_moves hlive (by rw [hm])
        simp only [hm] at herror
        simp [herror, hedge, Entry.publish, he]
  | recordProgress downloaded total now =>
    exact .inl ⟨Entry.recordProgress_status e downloaded total now,
      statusTrail_recordProgress he downloaded total now⟩

/-- A task's record with its events: the record the start announced, once it has taken its
snapshot; the events published, in the order of their lock sections; those published and not
yet sent; and those sent on the channel, in the order every subscriber receives them. -/
structure Broadcast where
  entry : Entry
  announced : Option Task
  log : List Event
  pending : List Event
  sent : List Event

namespace Broadcast

/-- A task just registered, with nothing published. -/
def new (e : Entry) : Broadcast := ⟨{ e with outbox := [] }, none, [], [], []⟩

/-- One step of the threads that share the task's record; `careful` restricts when the start
takes its snapshot and when a section may run. -/
inductive Step (careful : Bool) : Broadcast → Broadcast → Prop where
  /-- A lock section; what it publishes is sent later by the thread that ran it. -/
  | locked (p : Broadcast) (e : Entry) (hs : Section p.entry e)
      (hcareful : careful = true → p.announced.isSome ∧ p.pending = []) :
      Step careful p { p with entry := { e with outbox := [] }, log := p.log ++ e.outbox
                              pending := p.pending ++ e.outbox }
  /-- The start takes its snapshot of the task, once the task's worker is running. -/
  | announce (p : Broadcast) (hfirst : p.announced = none)
      (hcareful : careful = true → p.log = []) :
      Step careful p { p with announced := some p.entry.task
                              pending := p.pending ++ [.statusChanged p.entry.task] }
  /-- A thread sends the event it published, after it has released the lock. -/
  | send (p : Broadcast) (i : Nat) (hi : i < p.pending.length)
      (hcareful : careful = true → i = 0) :
      Step careful p { p with pending := p.pending.eraseIdx i, sent := p.sent ++ [p.pending[i]] }

/-- The states reachable from a task registered as preparing. -/
inductive Reachable (careful : Bool) : Broadcast → Prop
  | new (e : Entry) (hprep : e.task.status = .preparing) : Reachable careful (new e)
  | step {p q : Broadcast} (h : Reachable careful p) (hs : Step careful p q) : Reachable careful q

/-- What every schedule keeps. -/
structure Sound (p : Broadcast) : Prop where
  /-- What a section publishes goes to the log, not to the record. -/
  quiet : p.entry.outbox = []
  /-- In lock order the changes of status walk the task's edges from `preparing`. -/
  walk : (Status.preparing :: statusTrail p.log).IsChain (fun a b => a.canTransitionTo b = true)
  /-- The last change of status in lock order is the task's status. -/
  current : (Status.preparing :: statusTrail p.log).getLast? = some p.entry.task.status
  /-- Every published event is sent at most once, and nothing else is sent. -/
  conserved : (p.sent ++ p.pending).Perm ((p.announced.map .statusChanged).toList ++ p.log)

/-- What careful schedules keep besides. -/
structure InOrder (p : Broadcast) : Prop where
  /-- The channel and the unsent events are the published events, in lock order. -/
  ordered : p.sent ++ p.pending = (p.announced.map .statusChanged).toList ++ p.log
  first : p.announced = none → p.log = []
  fresh : ∀ t, p.announced = some t → t.status = .preparing

theorem sound_new {e : Entry} (hprep : e.task.status = .preparing) : (new e).Sound where
  quiet := rfl
  walk := List.isChain_singleton _
  current := by simp [new, hprep]
  conserved := by simp [new]

theorem inOrder_new (e : Entry) : (new e).InOrder where
  ordered := rfl
  first _ := rfl
  fresh _ h := by simp [new] at h

section Step

variable {careful : Bool} {p q : Broadcast}

/-- A section extends the lock-order walk by the change it publishes, if any. -/
theorem Sound.locked (hs : p.Sound) {e : Entry} (hsec : Section p.entry e) :
    (Status.preparing :: statusTrail (p.log ++ e.outbox)).IsChain
        (fun a b => a.canTransitionTo b = true) ∧
      (Status.preparing :: statusTrail (p.log ++ e.outbox)).getLast? = some e.task.status := by
  rcases hsec.publishes hs.quiet with ⟨hkeep, htrail⟩ | ⟨hedge, htrail⟩
  · simpa [htrail, hkeep] using ⟨hs.walk, hs.current⟩
  · rw [statusTrail_append, htrail, ← List.cons_append]
    refine ⟨hs.walk.append (List.isChain_singleton _) ?_, List.getLast?_concat⟩
    -- the change leaves the status the walk had reached
    intro a ha b hb
    rw [hs.current, Option.mem_some_iff] at ha
    simp only [List.head?_cons, Option.mem_some_iff] at hb
    rw [← ha, ← hb]
    exact hedge

theorem Step.sound (h : Step careful p q) (hs : p.Sound) : q.Sound := by
  cases h with
  | locked e hsec =>
    obtain ⟨hwalk, hcurrent⟩ := hs.locked hsec
    exact ⟨rfl, hwalk, hcurrent, by simpa using hs.conserved.append_right e.outbox⟩
  | announce hfirst =>
    refine ⟨hs.quiet, hs.walk, hs.current, ?_⟩
    -- the snapshot joins the published events
    have hc := hs.conserved
    rw [hfirst] at hc
    simp only [Option.map_none, Option.toList_none, List.nil_append] at hc
    show (p.sent ++ (p.pending ++ [Event.statusChanged p.entry.task])).Perm
      ([Event.statusChanged p.entry.task] ++ p.log)
    rw [← List.append_assoc]
    exact (hc.append_right _).trans List.perm_append_comm
  | send i hi =>
    refine ⟨hs.quiet, hs.walk, hs.current, ?_⟩
    have hmove : (p.sent ++ [p.pending[i]] ++ p.pending.eraseIdx i).Perm (p.sent ++ p.pending) := by
      simpa using (List.getElem_cons_eraseIdx_perm hi).append_left p.sent
    exact hmove.trans hs.conserved

theorem Step.inOrder (h : Step true p q) (hs : p.Sound) (ho : p.InOrder) : q.InOrder := by
  cases h with
  | locked e _ hcareful =>
    obtain ⟨hann, -⟩ := hcareful rfl
    refine ⟨by simpa using congrArg (· ++ e.outbox) ho.ordered, ?_, ho.fresh⟩
    intro hnone
    have hnone : p.announced = none := hnone
    simp [hnone] at hann
  | announce hfirst hcareful =>
    have hlog := hcareful rfl
    -- nothing was published before the snapshot, so the task is still preparing
    have hprep : p.entry.task.status = .preparing := by
      simpa [hlog] using hs.current.symm
    have hnil : p.sent ++ p.pending = [] := by simpa [hfirst, hlog] using ho.ordered
    obtain ⟨hsent, hpending⟩ := List.append_eq_nil_iff.mp hnil
    refine ⟨by simp [hsent, hpending, hlog], fun h => by simp at h, ?_⟩
    intro t ht
    simp only [Option.some.injEq] at ht
    rw [← ht]
    exact hprep
  | send i hi hcareful =>
    obtain rfl := hcareful rfl
    refine ⟨?_, ho.first, ho.fresh⟩
    rw [← ho.ordered]
    have hsplit : p.pending[0] :: p.pending.eraseIdx 0 = p.pending := by
      rw [List.eraseIdx_zero, ← List.drop_one, List.getElem_cons_drop, List.drop_zero]
    simp only [List.append_assoc, List.singleton_append, hsplit]

end Step

theorem Reachable.sound {careful : Bool} {p : Broadcast} (h : Reachable careful p) : p.Sound := by
  induction h with
  | new e hprep => exact sound_new hprep
  | step _ hs ih => exact hs.sound ih

theorem Reachable.inOrder {p : Broadcast} (h : Reachable true p) : p.InOrder := by
  induction h with
  | new e => exact inOrder_new e
  | step hr hs ih => exact hs.inOrder hr.sound ih

/-- Under careful schedules, once the start has announced the task, what is sent and what is
left to send announce `preparing` and then the lock-order walk. -/
theorem InOrder.statusTrail_published {p : Broadcast} (ho : p.InOrder) {t : Task}
    (ht : p.announced = some t) :
    statusTrail (p.sent ++ p.pending) = Status.preparing :: statusTrail p.log := by
  rw [ho.ordered, ht, ← ho.fresh t ht]
  rfl

/-- The changes of status published for a task, in the order of their lock sections, walk the
task's edges from `preparing` to its status, and every published event is sent at most once.
Under careful schedules the channel receives them in that order: its statuses are `preparing`
and then the walk, as far as it has been sent, and the whole walk once nothing is left. -/
theorem status_events_follow_lock_order {careful : Bool} {p : Broadcast}
    (h : Reachable careful p) :
    (Status.preparing :: statusTrail p.log).IsChain (fun a b => a.canTransitionTo b = true) ∧
    (Status.preparing :: statusTrail p.log).getLast? = some p.entry.task.status ∧
    (p.sent ++ p.pending).Perm ((p.announced.map .statusChanged).toList ++ p.log) ∧
    (careful = true → statusTrail p.sent <+: Status.preparing :: statusTrail p.log ∧
      (p.pending = [] → p.announced.isSome →
        statusTrail p.sent = Status.preparing :: statusTrail p.log)) := by
  have hs := h.sound
  refine ⟨hs.walk, hs.current, hs.conserved, ?_⟩
  rintro rfl
  have ho := h.inOrder
  cases hann : p.announced with
  | none =>
    -- before the announcement nothing is published, so nothing is sent
    have hnil : p.sent ++ p.pending = [] := by simpa [hann, ho.first hann] using ho.ordered
    simp [List.append_eq_nil_iff.mp hnil]
  | some t =>
    have hpub := ho.statusTrail_published hann
    refine ⟨?_, fun hpending _ => by simpa [hpending] using hpub⟩
    rw [← hpub]
    exact (List.prefix_append _ _).filterMap _

/-- A task announced by its start, then downloading and paused by its worker, each event sent
before the next section runs. -/
theorem status_events_follow_lock_order_sent_in_turn :
    ∃ p, Reachable true p ∧ statusTrail p.sent = [.preparing, .downloading, .paused] ∧
      (Status.preparing :: statusTrail p.log).IsChain (fun a b => a.canTransitionTo b = true) ∧
      (Status.preparing :: statusTrail p.log).getLast? = some p.entry.task.status ∧
      (p.sent ++ p.pending).Perm ((p.announced.map .statusChanged).toList ++ p.log) ∧
      (true = true → statusTrail p.sent <+: Status.preparing :: statusTrail p.log ∧
        (p.pending = [] → p.announced.isSome →
          statusTrail p.sent = Status.preparing :: statusTrail p.log)) := by
  let e : Entry := ⟨Task.new "t1" "http://h/x.bin" "p1" "/" none false 0, none, none,
    Tracker.start (Duration.ofSecs 1) 0 0, .root 0, [], none⟩
  have h₀ : Reachable true (new e) := .new e rfl
  have h₁ := h₀.step (.announce _ rfl (fun _ => rfl))
  have h₂ := h₁.step (.send _ 0 (by decide) (fun _ => rfl))
  have h₃ := h₂.step (.locked _ _ (.transition _ .downloading (.inl rfl)) (fun _ => ⟨rfl, rfl⟩))
  have h₄ := h₃.step (.send _ 0 (by decide) (fun _ => rfl))
  have h₅ := h₄.step (.locked _ _ (.transition _ .paused (.inr (.inl rfl))) (fun _ => ⟨rfl, rfl⟩))
  have h₆ := h₅.step (.send _ 0 (by decide) (fun _ => rfl))
  exact ⟨_, h₆, rfl, status_events_follow_lock_order h₆⟩

/-- Without that care the worker's first event can go out before the start takes its snapshot,
which then shows `downloading` as well: the channel never carries `preparing`, and its first
two statuses are no edge. -/
theorem start_snapshot_after_worker_repeats_downloading :
    ∃ p, Reachable false p ∧ statusTrail p.sent = [.downloading, .downloading] := by
  let e : Entry := ⟨Task.new "t1" "http://h/x.bin" "p1" "/" none false 0, none, none,
    Tracker.start (Duration.ofSecs 1) 0 0, .root 0, [], none⟩
  have h₀ : Reachable false (new e) := .new e rfl
  have h₁ := h₀.step (.locked _ _ (.transition _ .downloading (.inl rfl)) (fun h => nomatch h))
  have h₂ := h₁.step (.send _ 0 (by decide) (fun h => nomatch h))
  have h₃ := h₂.step (.announce _ rfl (fun h => nomatch h))
  have h₄ := h₃.step (.send _ 0 (by decide) (fun h => nomatch h))
  exact ⟨_, h₄, rfl⟩

end Broadcast

end DownloadEngine.Controller
