import DownloadEngine.Proofs.Lifecycle

/-!
# How a task's entry changes

A task's entry is changed by the engine's calls and by the task's runs, one update at a time,
each under the entry's lock; in between, the other party may make its own updates. `Change`
lists those updates, each with the condition under which a run makes it. A completion, a
failure and a settling are not one update but several, one per lock section: the move of a
task still preparing to `downloading`, then the section that decides (`completeLocked`,
`failLocked`, or the transition to the settled status), so a cancel may land between them.
Among the updates, a run records the probe only while none is known, seeds the bytes on disk
only while no mode is chosen, chooses the mode once, after the probe, and completes the task
only once the mode is chosen. The engine moves a paused task back to `downloading`, cancels a
task, gives it a fresh token and collects its events.

`Entry.Sound` adds to the task's bookkeeping what the order of a run guarantees: a chosen mode
comes with a probe, and a completed task has a mode. Every change keeps it, so every entry
reachable from a fresh one is sound, whatever the interleaving.

## Main statements

* `Entry.transition_eq`: a transition of an entry is the transition of its task, published.
* `Change.sound`: one change keeps a sound entry sound.
* `Change.walk`: one change moves the status along the task's edges.
* `Change.complete_run`, `Change.fail_run`, `Change.settle_run`: a whole completion, failure or
  settling is a sequence of changes.
* `Entry.completeLocked_false`, `Entry.failLocked_false`: a deciding section that answers
  `false` leaves the entry as it was.
* `Reachable.sound`: every reachable entry is sound.
-/

namespace DownloadEngine.Controller

namespace Entry

@[simp] theorem publish_task (e : Entry) (ev : Event) : (e.publish ev).task = e.task := rfl

@[simp] theorem publish_probe (e : Entry) (ev : Event) : (e.publish ev).probe = e.probe := rfl

@[simp] theorem publish_mode (e : Entry) (ev : Event) : (e.publish ev).mode = e.mode := rfl

/-- A transition of an entry is the transition of its task, published when the status moves. -/
theorem transition_eq (e : Entry) (next : Status) :
    e.transition next =
      if e.task.status = next then (true, e)
      else if (e.task.transition next).1 then
        (true, { e with task := (e.task.transition next).2 }.publish
          (.statusChanged (e.task.transition next).2))
      else (false, e) := by
  unfold transition
  split
  · rfl
  · cases h : e.task.transition next with
    | mk b task => cases b <;> rfl

theorem transition_fst (e : Entry) (next : Status) :
    (e.transition next).1 = (e.task.transition next).1 := by
  rw [transition_eq]
  split
  · next hs => simp [Task.transition, hs]
  · split
    · next hb => exact hb.symm
    · next hb => simpa using hb

@[simp] theorem transition_task (e : Entry) (next : Status) :
    (e.transition next).2.task = (e.task.transition next).2 := by
  rw [transition_eq]
  split
  · next hs => simp [Task.transition, hs]
  · split
    · rfl
    · next hb => exact (Task.transition_false (by simpa using hb)).symm

@[simp] theorem transition_probe (e : Entry) (next : Status) :
    (e.transition next).2.probe = e.probe := by
  rw [transition_eq]
  split
  · rfl
  · split <;> rfl

@[simp] theorem transition_mode (e : Entry) (next : Status) :
    (e.transition next).2.mode = e.mode := by
  rw [transition_eq]
  split
  · rfl
  · split <;> rfl

theorem transition_false {e : Entry} {next : Status} (h : (e.transition next).1 = false) :
    (e.transition next).2 = e := by
  rw [transition_eq] at h ⊢
  by_cases hs : e.task.status = next
  · simp [hs] at h
  · by_cases hb : (e.task.transition next).1 = true
    · simp [hs, hb] at h
    · simp [hs, hb]

/-- What a run guarantees of an entry, besides the bookkeeping of its task. -/
structure Sound (e : Entry) : Prop where
  /-- The task's bookkeeping. -/
  task : e.task.Sound
  /-- A mode is chosen only once the probe is known. -/
  probed : e.mode.isSome → e.probe.isSome
  /-- A completed task has its mode. -/
  chosen : e.task.status = .completed → e.mode.isSome

theorem Sound.mode_none {e : Entry} (h : e.Sound) (hp : e.probe = none) : e.mode = none := by
  cases hm : e.mode with
  | none => rfl
  | some m => simpa [hp] using h.probed (by simp [hm])

theorem Sound.not_completed {e : Entry} (h : e.Sound) (hm : e.mode = none) :
    e.task.status ≠ .completed := fun hc => by simpa [hm] using h.chosen hc

theorem sound_transition {e : Entry} (h : e.Sound) {next : Status} (hc : next ≠ .completed)
    (he : next ≠ .error) : (e.transition next).2.Sound where
  task := by simpa using Task.sound_transition h.task hc he
  probed := by simpa using h.probed
  chosen hs := by
    -- the new status is the old one or `next`, and `next` is not `completed`
    rcases Task.transition_status_cases e.task next with hst | hst <;> simp_all [h.chosen]

theorem walk_transition (e : Entry) (next : Status) :
    e.task.status.Walk (e.transition next).2.task.status := by
  simpa using Task.walk_transition e.task next

theorem sound_started {e : Entry} (h : e.Sound) : e.started.Sound := by
  unfold started
  split
  · exact sound_transition h (by decide) (by decide)
  · exact h

@[simp] theorem started_probe (e : Entry) : e.started.probe = e.probe := by
  unfold started; split <;> simp

@[simp] theorem started_mode (e : Entry) : e.started.mode = e.mode := by
  unfold started; split <;> simp

theorem walk_started (e : Entry) : e.task.status.Walk e.started.task.status := by
  unfold started
  split
  · exact walk_transition e _
  · exact Status.Walk.refl _

/-- A task that prepares or downloads is downloading once started. -/
theorem started_status {e : Entry} (h : e.task.status = .preparing ∨ e.task.status = .downloading) :
    e.started.task.status = .downloading := by
  unfold started
  rcases h with hp | hd
  · rw [if_pos hp, transition_task]
    exact (Task.transition_of_canTransitionTo (by simp [hp, Status.canTransitionTo])).2
  · rw [if_neg (by simp [hd])]
    exact hd

theorem started_of_ne {e : Entry} (h : e.task.status ≠ .preparing) : e.started = e := by
  simp [started, h]

/-! ### The deciding sections -/

/-- What the deciding section of a completion does to the task: on a downloading task the
bytes are recorded and the task completed; otherwise nothing. -/
theorem completeLocked_task (e : Entry) (bytes : Nat) :
    (e.completeLocked bytes).2.task =
      if e.task.status = .downloading then (e.task.setSizes bytes e.task.totalSize).markCompleted.2
      else e.task := by
  unfold completeLocked
  by_cases hd : e.task.status = .downloading
  · rw [if_neg (by simpa using hd), if_pos hd]
    cases (e.task.setSizes bytes e.task.totalSize).markCompleted with
    | mk b task => cases b <;> rfl
  · rw [if_pos hd, if_neg hd]

@[simp] theorem completeLocked_probe (e : Entry) (bytes : Nat) :
    (e.completeLocked bytes).2.probe = e.probe := by
  unfold completeLocked
  split
  · rfl
  · cases (e.task.setSizes bytes e.task.totalSize).markCompleted with
    | mk b task => cases b <;> simp

@[simp] theorem completeLocked_mode (e : Entry) (bytes : Nat) :
    (e.completeLocked bytes).2.mode = e.mode := by
  unfold completeLocked
  split
  · rfl
  · cases (e.task.setSizes bytes e.task.totalSize).markCompleted with
    | mk b task => cases b <;> simp

/-- What the deciding section of a failure does to the task: it fails it. -/
theorem failLocked_task (e : Entry) (message : String) :
    (e.failLocked message).2.task = (e.task.markFailed message).2 := by
  unfold failLocked
  cases hm : e.task.markFailed message with
  | mk b task =>
      cases b
      · -- a refused failure hands the task back unchanged
        have hf : (e.task.markFailed message).2 = e.task := Task.markFailed_false (by simp [hm])
        simp only [hm] at hf
        exact hf.symm
      · rfl

theorem failLocked_fst (e : Entry) (message : String) :
    (e.failLocked message).1 = (e.task.markFailed message).1 := by
  unfold failLocked
  cases e.task.markFailed message with
  | mk b task => cases b <;> rfl

@[simp] theorem failLocked_probe (e : Entry) (message : String) :
    (e.failLocked message).2.probe = e.probe := by
  unfold failLocked
  cases e.task.markFailed message with
  | mk b task => cases b <;> simp

@[simp] theorem failLocked_mode (e : Entry) (message : String) :
    (e.failLocked message).2.mode = e.mode := by
  unfold failLocked
  cases e.task.markFailed message with
  | mk b task => cases b <;> simp

theorem failLocked_false {e : Entry} {message : String} (h : (e.failLocked message).1 = false) :
    (e.failLocked message).2 = e := by
  rw [failLocked_fst] at h
  unfold failLocked
  cases hm : e.task.markFailed message with
  | mk b task => simp [hm] at h; simp [h]

theorem sound_completeLocked {e : Entry} (h : e.Sound) (hm : e.mode.isSome) (bytes : Nat) :
    (e.completeLocked bytes).2.Sound where
  task := by
    rw [completeLocked_task]
    split
    · next hd => exact Task.sound_markCompleted (Task.sound_setSizes h.task (by rw [hd]; decide) _ _)
    · exact h.task
  probed := by simpa using h.probed
  chosen _ := by simpa using hm

theorem sound_failLocked {e : Entry} (h : e.Sound) (message : String) :
    (e.failLocked message).2.Sound where
  task := by
    rw [failLocked_task]
    exact Task.sound_markFailed h.task message
  probed := by simpa using h.probed
  chosen hs := by
    -- a failure lands on `error` or changes nothing, so the entry was completed
    have hc : e.task.status = .completed := by
      rcases Task.markFailed_status_cases e.task message with hst | hst <;>
        simp_all [failLocked_task]
    simpa using h.chosen hc

theorem walk_completeLocked (e : Entry) (bytes : Nat) :
    e.task.status.Walk (e.completeLocked bytes).2.task.status := by
  rw [completeLocked_task]
  split
  · simpa using Task.walk_markCompleted (e.task.setSizes bytes e.task.totalSize)
  · exact Status.Walk.refl _

theorem walk_failLocked (e : Entry) (message : String) :
    e.task.status.Walk (e.failLocked message).2.task.status := by
  rw [failLocked_task]
  exact Task.walk_markFailed _ message

/-! ### A completion or a failure with no update between its sections -/

/-- What a completion does to the task: on a downloading task, the bytes are recorded and the
task completed; otherwise nothing. -/
theorem complete_task (e : Entry) (bytes : Nat) :
    (e.complete bytes).2.task =
      if e.started.task.status = .downloading then
        (e.started.task.setSizes bytes e.started.task.totalSize).markCompleted.2
      else e.started.task :=
  completeLocked_task e.started bytes

@[simp] theorem complete_probe (e : Entry) (bytes : Nat) :
    (e.complete bytes).2.probe = e.probe := by
  rw [complete, completeLocked_probe, started_probe]

@[simp] theorem complete_mode (e : Entry) (bytes : Nat) :
    (e.complete bytes).2.mode = e.mode := by
  rw [complete, completeLocked_mode, started_mode]

/-- What a failure does to the task: it fails the task once a task that never left
`preparing` has started downloading. -/
theorem fail_task (e : Entry) (message : String) :
    (e.fail message).2.task = (e.started.task.markFailed message).2 :=
  failLocked_task e.started message

theorem fail_fst (e : Entry) (message : String) :
    (e.fail message).1 = (e.started.task.markFailed message).1 :=
  failLocked_fst e.started message

@[simp] theorem fail_probe (e : Entry) (message : String) :
    (e.fail message).2.probe = e.probe := by
  rw [fail, failLocked_probe, started_probe]

@[simp] theorem fail_mode (e : Entry) (message : String) :
    (e.fail message).2.mode = e.mode := by
  rw [fail, failLocked_mode, started_mode]

theorem fail_false {e : Entry} {message : String} (h : (e.fail message).1 = false) :
    (e.fail message).2 = e := by
  by_cases hp : e.task.status = .preparing
  · have hf := Task.markFailed_fst_of_downloading (started_status (Or.inl hp)) message
    simp [fail_fst, hf] at h
  · have hs : e.started = e := started_of_ne hp
    rw [fail, hs] at h ⊢
    exact failLocked_false h

theorem sound_complete {e : Entry} (h : e.Sound) (hm : e.mode.isSome) (bytes : Nat) :
    (e.complete bytes).2.Sound :=
  sound_completeLocked (sound_started h) (by simpa using hm) bytes

theorem sound_fail {e : Entry} (h : e.Sound) (message : String) : (e.fail message).2.Sound :=
  sound_failLocked (sound_started h) message

theorem walk_complete (e : Entry) (bytes : Nat) :
    e.task.status.Walk (e.complete bytes).2.task.status :=
  (walk_started e).trans (walk_completeLocked _ bytes)

theorem walk_fail (e : Entry) (message : String) :
    e.task.status.Walk (e.fail message).2.task.status :=
  (walk_started e).trans (walk_failLocked _ message)

theorem sound_setProbe {e : Entry} (h : e.Sound) (hp : e.probe = none) (info : ProbeInfo) :
    (e.setProbe info).Sound where
  task := Task.sound_setSizes h.task (h.not_completed (h.mode_none hp)) _ _
  probed _ := rfl
  chosen hc := absurd hc (h.not_completed (h.mode_none hp))

theorem sound_setDestination {e : Entry} (h : e.Sound) (name path : String) :
    (e.setDestination name path).Sound :=
  ⟨⟨h.task.sized, h.task.percent, h.task.whole, h.task.failed, h.task.idle⟩, h.probed, h.chosen⟩

theorem sound_seedDownloaded {e : Entry} (h : e.Sound) (hm : e.mode = none) (bytes : Nat)
    (now : Instant) : (e.seedDownloaded bytes now).Sound where
  task := Task.sound_setSizes h.task (h.not_completed hm) _ _
  probed := h.probed
  chosen hc := absurd hc (h.not_completed hm)

theorem sound_restartSampling {e : Entry} (h : e.Sound) (now : Instant) :
    (e.restartSampling now).Sound :=
  ⟨h.task, h.probed, h.chosen⟩

@[simp] theorem recordProgress_status (e : Entry) (downloaded total : Nat) (now : Instant) :
    (e.recordProgress downloaded total now).task.status = e.task.status := by
  unfold recordProgress
  split
  · rfl
  · dsimp only
    split <;> rfl

@[simp] theorem recordProgress_probe (e : Entry) (downloaded total : Nat) (now : Instant) :
    (e.recordProgress downloaded total now).probe = e.probe := by
  unfold recordProgress
  split
  · rfl
  · dsimp only
    split <;> rfl

@[simp] theorem recordProgress_mode (e : Entry) (downloaded total : Nat) (now : Instant) :
    (e.recordProgress downloaded total now).mode = e.mode := by
  unfold recordProgress
  split
  · rfl
  · dsimp only
    split <;> rfl

theorem sound_recordProgress {e : Entry} (h : e.Sound) (downloaded total : Nat) (now : Instant) :
    (e.recordProgress downloaded total now).Sound := by
  refine ⟨?_, by simpa using h.probed, by simpa using h.chosen⟩
  unfold recordProgress
  split
  · exact h.task
  · -- only a downloading task takes the sizes, and with them a rate sample
    next hd =>
    simp only [ne_eq, Decidable.not_not] at hd
    have hs := Task.sound_setSizes h.task (by rw [hd]; decide) downloaded
      (if total > 0 then total else e.task.totalSize)
    dsimp only
    split
    · exact Task.sound_applyThroughput hs hd _
    · exact hs

end Entry

/-- A newly registered entry: a new task, with no probe and no mode chosen. -/
structure Entry.Fresh (e : Entry) : Prop where
  task : ∃ taskId url projectId destinationPath filename concurrent startedAt,
    e.task = Task.new taskId url projectId destinationPath filename concurrent startedAt
  probe : e.probe = none
  mode : e.mode = none

theorem Entry.Fresh.sound {e : Entry} (h : e.Fresh) : e.Sound where
  task := by
    obtain ⟨taskId, url, projectId, destinationPath, filename, concurrent, startedAt, ht⟩ := h.task
    rw [ht]
    exact Task.sound_new taskId url projectId destinationPath filename concurrent startedAt
  probed hm := by simp [h.mode] at hm
  chosen hc := by
    obtain ⟨_, _, _, _, _, _, _, ht⟩ := h.task
    simp [ht, Task.new] at hc

/-- One update of a task's entry, by the engine or by one of the task's runs, with the
condition under which a run makes it. -/
inductive Change : Entry → Entry → Prop where
  /-- A run starts downloading or settles as paused or cancelled; the engine resumes or
  cancels. -/
  | transition (e : Entry) (next : Status)
      (h : next = .downloading ∨ next = .paused ∨ next = .cancelled) :
      Change e (e.transition next).2
  /-- A run records its probe while none is known. -/
  | setProbe (e : Entry) (info : ProbeInfo) (h : e.probe = none) : Change e (e.setProbe info)
  | setDestination (e : Entry) (name path : String) : Change e (e.setDestination name path)
  /-- A run seeds the bytes on disk before it chooses the mode. -/
  | seedDownloaded (e : Entry) (bytes : Nat) (now : Instant) (h : e.mode = none) :
      Change e (e.seedDownloaded bytes now)
  /-- A run chooses the mode once, after the probe. -/
  | chooseMode (e : Entry) (mode : Mode) (h : e.mode = none) (hp : e.probe.isSome) :
      Change e { e with mode := some mode }
  | restartSampling (e : Entry) (now : Instant) : Change e (e.restartSampling now)
  | recordProgress (e : Entry) (downloaded total : Nat) (now : Instant) :
      Change e (e.recordProgress downloaded total now)
  /-- The section of a run's completion that decides it, once the mode is chosen. -/
  | completeLocked (e : Entry) (bytes : Nat) (h : e.mode.isSome) :
      Change e (e.completeLocked bytes).2
  /-- The section of a run's failure that decides it. -/
  | failLocked (e : Entry) (message : String) : Change e (e.failLocked message).2
  /-- The engine gives a resumed task a fresh token. -/
  | retoken (e : Entry) (token : Token) : Change e { e with token }
  /-- The engine hands the handle of the task's worker on: to a new run, or to be joined. -/
  | rehandle (e : Entry) (worker : Option Nat) : Change e { e with worker }
  /-- The engine collects the task's events. -/
  | collect (e : Entry) : Change e { e with outbox := [] }

namespace Change

theorem sound {e e' : Entry} (hc : Change e e') (h : e.Sound) : e'.Sound := by
  cases hc with
  | transition next hn =>
      exact Entry.sound_transition h (by rcases hn with rfl | rfl | rfl <;> decide)
        (by rcases hn with rfl | rfl | rfl <;> decide)
  | setProbe info hp => exact Entry.sound_setProbe h hp info
  | setDestination name path => exact Entry.sound_setDestination h name path
  | seedDownloaded bytes now hm => exact Entry.sound_seedDownloaded h hm bytes now
  | chooseMode mode hm hp => exact ⟨h.task, fun _ => hp, fun _ => rfl⟩
  | restartSampling now => exact Entry.sound_restartSampling h now
  | recordProgress downloaded total now => exact Entry.sound_recordProgress h downloaded total now
  | completeLocked bytes hm => exact Entry.sound_completeLocked h hm bytes
  | failLocked message => exact Entry.sound_failLocked h message
  | retoken token => exact ⟨h.task, h.probed, h.chosen⟩
  | rehandle worker => exact ⟨h.task, h.probed, h.chosen⟩
  | collect => exact ⟨h.task, h.probed, h.chosen⟩

theorem walk {e e' : Entry} (hc : Change e e') : e.task.status.Walk e'.task.status := by
  cases hc with
  | transition next _ => exact Entry.walk_transition _ next
  | completeLocked bytes _ => exact Entry.walk_completeLocked _ bytes
  | failLocked message => exact Entry.walk_failLocked _ message
  | recordProgress downloaded total now => simpa using Status.Walk.refl _
  | setProbe | setDestination | seedDownloaded | chooseMode | restartSampling | retoken
  | rehandle | collect => exact Status.Walk.refl _

/-- A run's first sections, which move a task still preparing to `downloading`. -/
theorem started_run (e : Entry) : Relation.ReflTransGen Change e e.started := by
  unfold Entry.started
  split
  · exact .single (.transition e .downloading (.inl rfl))
  · exact .refl

/-- Settling a run as paused or cancelled is a change through `downloading`, or one change. -/
theorem settle_run (e : Entry) (next : Status) (hn : next = .paused ∨ next = .cancelled) :
    Relation.ReflTransGen Change e (e.settle next).2 := by
  have hlast : ∀ e' : Entry, Change e' (e'.transition next).2 := fun e' =>
    .transition e' next (.inr hn)
  dsimp only [Entry.settle]
  split
  · exact .tail (.single (.transition e .downloading (.inl rfl))) (hlast _)
  · exact .single (hlast e)

/-- A completion is its first sections and the section that decides it, once the mode is
chosen. -/
theorem complete_run (e : Entry) (bytes : Nat) (hm : e.mode.isSome) :
    Relation.ReflTransGen Change e (e.complete bytes).2 :=
  (started_run e).tail (.completeLocked _ bytes (by simpa using hm))

/-- A failure is its first sections and the section that decides it. -/
theorem fail_run (e : Entry) (message : String) :
    Relation.ReflTransGen Change e (e.fail message).2 :=
  (started_run e).tail (.failLocked _ message)

end Change

/-- The entries a task can have: a fresh entry after any number of changes. -/
def Entry.Reachable (e : Entry) : Prop :=
  ∃ e₀, e₀.Fresh ∧ Relation.ReflTransGen Change e₀ e

theorem Entry.Reachable.tail {e e' : Entry} (h : e.Reachable)
    (hc : Relation.ReflTransGen Change e e') : e'.Reachable := by
  obtain ⟨e₀, hf, hrun⟩ := h
  exact ⟨e₀, hf, hrun.trans hc⟩

theorem Entry.Reachable.sound {e : Entry} (h : e.Reachable) : e.Sound := by
  obtain ⟨e₀, hf, hrun⟩ := h
  induction hrun with
  | refl => exact hf.sound
  | tail _ hc ih => exact hc.sound ih

end DownloadEngine.Controller
