import DownloadEngine.Proofs.QuietRun
import DownloadEngine.Proofs.TokenSignals
import Mathlib.Data.List.Nodup

/-!
# The engine's registry

The engine registers tasks by id. A start that passes its checks registers its task; a cancel of
a registered task and a cleanup of the tasks in a terminal status remove them; every other call,
and every update a run makes to its task's entry, keeps the set of registered ids. So ids stay
unique, and a task is registered exactly when its last registration change was an addition.

Pausing, resuming and cancelling a task that is not registered answer `false` and change nothing.
A resume answers `true` only for a paused task; since the call holds the registry until its run
has started, resume calls on one task take effect one after another, and the first one leaves
the task downloading, or failed when the system refused its thread, so no later one finds it
paused.

## Main statements

* `Engine.Life.nodup`: the registry never holds two entries with one id.
* `Engine.Life.registered_iff`: a task is registered exactly when its last registration change
  added it.
* `Engine.get?_cleanup`, `Engine.mem_list_iff`, `Engine.list_sorted`: what a cleanup removes and
  what a listing holds, in which order.
* `Engine.resumeInTurn_of_paused`: of resume calls in turn on a paused task, exactly the first
  answers `true` when its run got a thread, and none when it did not; the task then failed.
* `Engine.registry_semantics`: the registry's semantics over every life of the engine.
-/

namespace DownloadEngine

namespace Task

@[simp] theorem transition_taskId (t : Task) (next : Status) :
    (t.transition next).2.taskId = t.taskId := by
  rcases transition_cases t next with ⟨-, ht⟩ | ⟨-, -, ht⟩ | ⟨-, -, ht⟩ | ⟨-, -, ht⟩ <;> simp [ht]

@[simp] theorem markCompleted_taskId (t : Task) : t.markCompleted.2.taskId = t.taskId := by
  rw [markCompleted_eq]
  split <;> simp

@[simp] theorem markFailed_taskId (t : Task) (message : String) :
    (t.markFailed message).2.taskId = t.taskId := by
  rw [markFailed_eq]
  split <;> simp

/-- A downloading task that fails keeps the message. -/
theorem markFailed_errorMessage {t : Task} (h : t.status = .downloading) (message : String) :
    (t.markFailed message).2.errorMessage = some message := by
  have ht := transition_of_canTransitionTo
    (show t.status.canTransitionTo .error = true by simp [h, Status.canTransitionTo])
  rw [markFailed_eq, if_pos ht.1]

@[simp] theorem setSizes_taskId (t : Task) (downloaded total : Nat) :
    (t.setSizes downloaded total).taskId = t.taskId := rfl

@[simp] theorem applyThroughput_taskId (t : Task) (th : Throughput) :
    (t.applyThroughput th).taskId = t.taskId := rfl

end Task

/-- A new token hears no signal: its cell is the forest's newest, and nothing was raised on it. -/
theorem Forest.signal_newToken (f : Forest) : f.newToken.1.signal f.newToken.2 = none := by
  simp only [Forest.newToken_fst, Forest.newToken_snd, Forest.signal, Forest.cell_fresh]
  exact Forest.cell_of_length_le f (Nat.le_refl _)

namespace Controller

namespace Entry

@[simp] theorem transition_taskId (e : Entry) (next : Status) :
    (e.transition next).2.task.taskId = e.task.taskId := by
  simp

@[simp] theorem started_taskId (e : Entry) : e.started.task.taskId = e.task.taskId := by
  unfold started
  split <;> simp

@[simp] theorem settle_taskId (e : Entry) (next : Status) :
    (e.settle next).2.task.taskId = e.task.taskId := by
  unfold settle
  split <;> simp

@[simp] theorem recordProgress_taskId (e : Entry) (downloaded total : Nat) (now : Instant) :
    (e.recordProgress downloaded total now).task.taskId = e.task.taskId := by
  unfold recordProgress
  split
  · rfl
  · dsimp only
    split <;> rfl

@[simp] theorem completeLocked_taskId (e : Entry) (bytes : Nat) :
    (e.completeLocked bytes).2.task.taskId = e.task.taskId := by
  rw [completeLocked_task]
  split <;> simp

@[simp] theorem failLocked_taskId (e : Entry) (message : String) :
    (e.failLocked message).2.task.taskId = e.task.taskId := by
  rw [failLocked_task]
  simp

@[simp] theorem complete_taskId (e : Entry) (bytes : Nat) :
    (e.complete bytes).2.task.taskId = e.task.taskId := by
  rw [complete, completeLocked_taskId, started_taskId]

@[simp] theorem fail_taskId (e : Entry) (message : String) :
    (e.fail message).2.task.taskId = e.task.taskId := by
  rw [fail, failLocked_taskId, started_taskId]

/-- A paused task moves to `downloading` when asked to. -/
theorem transition_downloading_of_paused {e : Entry} (hp : e.task.status = .paused) :
    (e.transition .downloading).1 = true ∧
      (e.transition .downloading).2.task.status = .downloading := by
  have hedge := Task.transition_of_canTransitionTo
    (show e.task.status.canTransitionTo .downloading = true by simp [hp, Status.canTransitionTo])
  exact ⟨by rw [transition_fst]; exact hedge.1, by rw [transition_task]; exact hedge.2⟩

theorem transition_downloading_pair {e : Entry} (hp : e.task.status = .paused) :
    e.transition .downloading = (true, (e.transition .downloading).2) :=
  Prod.ext (transition_downloading_of_paused hp).1 rfl

end Entry

/-- No update of an entry changes the id of its task. -/
theorem Change.taskId {e e' : Entry} (hc : Change e e') : e'.task.taskId = e.task.taskId := by
  cases hc with
  | transition next _ => simp
  | setProbe info _ => rfl
  | setDestination name path => rfl
  | seedDownloaded bytes now _ => rfl
  | chooseMode mode _ _ => rfl
  | restartSampling now => rfl
  | recordProgress downloaded total now => simp
  | completeLocked bytes _ => simp
  | failLocked message => simp
  | retoken token => rfl
  | rehandle worker => rfl
  | collect => rfl

theorem Change.taskId_run {e e' : Entry} (h : Relation.ReflTransGen Change e e') :
    e'.task.taskId = e.task.taskId := by
  induction h with
  | refl => rfl
  | tail _ hc ih => rw [hc.taskId, ih]

theorem runTask_taskId {σ : Type} (setup : Setup) (net : Network σ) (now : Moment)
    (signal : Option Signal) (e : Entry) (w : World σ) :
    (runTask setup net now signal e w).1.task.taskId = e.task.taskId :=
  Change.taskId_run (runTask_changes setup net now signal e w)

namespace Engine

variable {σ : Type}

/-! ## Looking tasks up -/

/-- The ids of the registered tasks, in registration order. -/
def ids (eng : Engine σ) : List String := eng.entries.map (·.task.taskId)

theorem isSome_entry?_iff (eng : Engine σ) (taskId : String) :
    (eng.entry? taskId).isSome ↔ taskId ∈ eng.ids := by
  simp [ids, entry?, List.find?_isSome]

theorem isSome_get?_iff (eng : Engine σ) (taskId : String) :
    (eng.get? taskId).isSome ↔ taskId ∈ eng.ids := by
  simp [get?, isSome_entry?_iff]

theorem entry?_eq_some {eng : Engine σ} {taskId : String} {e : Entry}
    (h : eng.entry? taskId = some e) : e ∈ eng.entries ∧ e.task.taskId = taskId :=
  ⟨List.mem_of_find?_eq_some h, by simpa using List.find?_some h⟩

theorem mem_ids_of_entry?_eq_some {eng : Engine σ} {taskId : String} {e : Entry}
    (h : eng.entry? taskId = some e) : taskId ∈ eng.ids :=
  (isSome_entry?_iff eng taskId).mp (by rw [h]; rfl)

theorem get?_eq_none_iff (eng : Engine σ) (taskId : String) :
    eng.get? taskId = none ↔ eng.entry? taskId = none := by
  simp [get?]

/-- Replacing an entry keeps every task's place: the lookup of its id finds the new entry. -/
theorem entry?_putEntry (eng : Engine σ) (e : Entry) (taskId : String) :
    Engine.entry? (eng.putEntry e) taskId =
      if e.task.taskId = taskId then (eng.entry? taskId).map fun _ => e
      else eng.entry? taskId := by
  unfold entry? putEntry
  rw [List.find?_map]
  have hsame : ((fun x : Entry => x.task.taskId == taskId) ∘ fun old =>
      if old.task.taskId == e.task.taskId then e else old) = fun x => x.task.taskId == taskId := by
    funext old
    simp only [Function.comp]
    split <;> simp_all
  rw [hsame]
  cases hf : eng.entries.find? (·.task.taskId == taskId) with
  | none => split <;> rfl
  | some old =>
    have hold : old.task.taskId = taskId := by simpa using List.find?_some hf
    split
    · next h => simp [hold, h]
    · -- the entry found keeps its place, as its id is not the new entry's
      next h =>
      simp only [Option.map_some, hold, beq_iff_eq]
      rw [if_neg (Ne.symm h)]

@[simp] theorem ids_putEntry (eng : Engine σ) (e : Entry) : (eng.putEntry e).ids = eng.ids := by
  unfold ids putEntry
  rw [List.map_map]
  congr 1
  funext old
  simp only [Function.comp]
  split <;> simp_all

/-! ## What each call does to the registered ids -/

@[simp] theorem ids_run (eng : Engine σ) (now : Moment) (e : Entry) : (eng.run now e).ids = eng.ids := by
  unfold run
  generalize runTask eng.setup eng.net now (eng.forest.signal e.token) e eng.world = ran
  obtain ⟨e', world⟩ := ran
  exact ids_putEntry eng _

/-- A start that passes its checks finds its id free. -/
theorem checkStart_ok {eng : Engine σ} {req : StartRequest} (h : eng.checkStart req = .ok ()) :
    eng.entry? req.taskId = none := by
  unfold checkStart at h
  simp only [bind, Except.bind, pure, Except.pure, throw, throwThe, MonadExceptOf.throw] at h
  repeat' split at h
  all_goals simp_all

/-- A start registers its task exactly when its checks pass, and answers with its id. -/
theorem start_cases (eng : Engine σ) (now : Moment) (req : StartRequest) :
    (∃ err, eng.checkStart req = .error err ∧ eng.start now req = (eng, .error err)) ∨
    (eng.checkStart req = .ok () ∧ (eng.start now req).2 = .ok req.taskId ∧
      (eng.start now req).1.ids = eng.ids ++ [req.taskId]) := by
  unfold start
  cases hc : eng.checkStart req with
  | error err => exact .inl ⟨err, rfl, rfl⟩
  | ok u =>
    refine .inr ⟨rfl, rfl, ?_⟩
    dsimp only
    rw [ids_run]
    simp [ids, Task.new]

theorem startSpawning_ok (eng : Engine σ) (now : Moment) (req : StartRequest) (u : Unit) :
    eng.startSpawning now req (.ok u) = eng.start now req := rfl

/-- A start with a thread refused registers nothing. -/
theorem startSpawning_error (eng : Engine σ) (now : Moment) (req : StartRequest) (err : IoError) :
    (eng.startSpawning now req (.error err)).1.entries = eng.entries ∧
      ∀ taskId, (eng.startSpawning now req (.error err)).2 ≠ .ok taskId := by
  unfold startSpawning
  dsimp only
  split <;> simp

@[simp] theorem pause_fst_ids (eng : Engine σ) (taskId : String) :
    (eng.pause taskId).1.ids = eng.ids := by
  unfold pause
  split
  · split <;> rfl
  · rfl

@[simp] theorem resume_fst_ids (eng : Engine σ) (now : Moment) (taskId : String) :
    (eng.resume now taskId).1.ids = eng.ids := by
  unfold resume
  split
  · split
    · rfl
    · split
      · rfl
      · dsimp only
        rw [ids_run, ids_putEntry]
        rfl
  · rfl

@[simp] theorem resumeSpawning_fst_ids (eng : Engine σ) (now : Moment) (taskId : String)
    (spawn : Except IoError Unit) : (eng.resumeSpawning now taskId spawn).1.ids = eng.ids := by
  unfold resumeSpawning
  split
  · exact resume_fst_ids eng now taskId
  · split
    · split
      · rfl
      · split
        · rfl
        · exact ids_putEntry eng _
    · rfl

/-- A cancel of a registered task removes exactly its id; of another, it changes nothing. -/
theorem cancel_cases (eng : Engine σ) (taskId : String) :
    (eng.entry? taskId = none ∧ eng.cancel taskId = (eng, false)) ∨
    ((eng.entry? taskId).isSome ∧ (eng.cancel taskId).2 = true ∧
      (eng.cancel taskId).1.ids = eng.ids.filter (· != taskId)) := by
  unfold cancel
  cases he : eng.entry? taskId with
  | none => exact .inl ⟨rfl, rfl⟩
  | some e =>
    refine .inr ⟨rfl, rfl, ?_⟩
    simp only [ids, List.filter_map]
    rfl

theorem cleanup_entries (eng : Engine σ) :
    eng.cleanup.1.entries = eng.entries.filter fun e => !e.task.status.isTerminal := by
  simp only [cleanup, List.partition_eq_filter_filter]
  rfl

@[simp] theorem shutdown_ids (eng : Engine σ) : eng.shutdown.ids = eng.ids := by
  simp [shutdown, ids, Function.comp_def]

/-! ## The life of the engine -/

/-- A call on the engine. A start or a resume carries what the system answered when the call
asked for a thread for the task's run. -/
inductive Call where
  | start (now : Moment) (req : StartRequest) (spawn : Except IoError Unit)
  | pause (taskId : String)
  | resume (now : Moment) (taskId : String) (spawn : Except IoError Unit)
  | cancel (taskId : String)
  | cleanup
  | shutdown

/-- The engine after a call. -/
def perform (eng : Engine σ) : Call → Engine σ
  | .start now req spawn => (eng.startSpawning now req spawn).1
  | .pause taskId => (eng.pause taskId).1
  | .resume now taskId spawn => (eng.resumeSpawning now taskId spawn).1
  | .cancel taskId => (eng.cancel taskId).1
  | .cleanup => eng.cleanup.1
  | .shutdown => eng.shutdown

/-- A change to which tasks are registered. -/
inductive Registration where
  | added (taskId : String)
  | removed (taskId : String)
  deriving DecidableEq, Repr

/-- The task a registration change is about. -/
def Registration.taskId : Registration → String
  | .added taskId => taskId
  | .removed taskId => taskId

/-- The last change about a task in a log of registration changes, oldest first: each change
about the task replaces the one kept before. -/
def Registration.lastFor (taskId : String) (log : List Registration) : Option Registration :=
  log.foldl (fun last r => if r.taskId = taskId then some r else last) none

/-- The registration changes a call makes: a start that succeeds adds its task, a cancel that
answers `true` removes its task, and a cleanup removes every task it finds in a terminal status. -/
def registrations (eng : Engine σ) : Call → List Registration
  | .start now req spawn =>
    match (eng.startSpawning now req spawn).2 with
    | .ok taskId => [.added taskId]
    | .error _ => []
  | .cancel taskId => if (eng.cancel taskId).2 then [.removed taskId] else []
  | .cleanup => (eng.entries.filter (·.task.status.isTerminal)).map (.removed ·.task.taskId)
  | _ => []

/-- The engines some calls lead to from a new one, with the tasks' runs updating their entries
between the calls, and the registration changes the calls made, oldest first. -/
inductive Life : Engine σ → List Registration → Prop
  | new (setup : Setup) (net : Network σ) (world : World σ) : Life (Engine.new setup net world) []
  | call {eng : Engine σ} {log : List Registration} (h : Life eng log) (c : Call) :
      Life (eng.perform c) (log ++ eng.registrations c)
  | work {eng : Engine σ} {log : List Registration} (h : Life eng log) {e e' : Entry}
      (he : e ∈ eng.entries) (hc : Change e e') : Life (eng.putEntry e') log

/-- The change kept after more changes: the last one about the task among them, if any. -/
theorem Registration.lastFor_append (taskId : String) (log more : List Registration) :
    lastFor taskId (log ++ more) =
      more.foldl (fun last r => if r.taskId = taskId then some r else last)
        (lastFor taskId log) := by
  simp [lastFor, List.foldl_append]

/-- A run of removals keeps the last change about a task when it does not name the task, and
records the task's removal when it does. -/
theorem Registration.foldl_removed {α : Type} (key : α → String) (taskId : String) (xs : List α)
    (last : Option Registration) :
    (xs.map fun x => Registration.removed (key x)).foldl
        (fun last r => if r.taskId = taskId then some r else last) last =
      if taskId ∈ xs.map key then some (.removed taskId) else last := by
  induction xs generalizing last with
  | nil => simp
  | cons x rest ih =>
    rw [List.map_cons, List.foldl_cons, ih]
    simp only [Registration.taskId, List.map_cons, List.mem_cons]
    by_cases hr : taskId ∈ rest.map key
    · simp [hr]
    · by_cases hid : key x = taskId
      · simp [hr, hid]
      · simp [hr, hid, Ne.symm hid]

theorem nodup_perform {eng : Engine σ} (h : eng.ids.Nodup) (c : Call) :
    (eng.perform c).ids.Nodup := by
  cases c with
  | start now req spawn =>
    cases spawn with
    | error err => rw [perform, ids, (startSpawning_error eng now req err).1]; exact h
    | ok u =>
      rcases start_cases eng now req with ⟨err, -, hs⟩ | ⟨hc, -, hids⟩
      · rw [perform, startSpawning_ok, hs]
        exact h
      · -- the start's checks found its id free
        rw [perform, startSpawning_ok, hids]
        have hfree : req.taskId ∉ eng.ids := by
          rw [← isSome_entry?_iff, checkStart_ok hc]
          exact Bool.false_ne_true
        exact List.nodup_append.mpr ⟨h, List.nodup_singleton _, fun a ha b hb => by
          rw [List.mem_singleton] at hb
          exact fun heq => hfree (hb ▸ heq ▸ ha)⟩
  | pause taskId =>
    simp only [perform, pause_fst_ids]
    exact h
  | resume now taskId spawn =>
    simp only [perform, resumeSpawning_fst_ids]
    exact h
  | cancel taskId =>
    rcases cancel_cases eng taskId with ⟨-, hc⟩ | ⟨-, -, hids⟩
    · simp only [perform, hc]
      exact h
    · simp only [perform, hids]
      exact h.sublist List.filter_sublist
  | cleanup =>
    simp only [perform, ids, cleanup_entries]
    exact h.sublist (List.filter_sublist.map _)
  | shutdown => simpa [perform] using h

/-- The registry never holds two entries with one id. -/
theorem Life.nodup {eng : Engine σ} {log : List Registration} (h : Life eng log) :
    eng.ids.Nodup := by
  induction h with
  | new setup net world => simp [ids, Engine.new]
  | call _ c ih => exact nodup_perform ih c
  | work _ _ _ ih => rwa [ids_putEntry]

/-- With ids unique, a cleanup keeps exactly the ids of the tasks not in a terminal status. -/
theorem mem_ids_cleanup {eng : Engine σ} (h : eng.ids.Nodup) (taskId : String) :
    taskId ∈ eng.cleanup.1.ids ↔
      taskId ∈ eng.ids ∧
        taskId ∉ (eng.entries.filter (·.task.status.isTerminal)).map (·.task.taskId) := by
  simp only [ids, cleanup_entries, List.mem_map, List.mem_filter]
  constructor
  · rintro ⟨e, ⟨he, hlive⟩, rfl⟩
    refine ⟨⟨e, he, rfl⟩, ?_⟩
    rintro ⟨e', ⟨he', hgone⟩, hid⟩
    -- two entries with one id are one entry, which cannot be both terminal and not
    have := List.inj_on_of_nodup_map h he' he hid
    subst this
    simp_all
  · rintro ⟨⟨e, he, rfl⟩, hnot⟩
    exact ⟨e, ⟨he, by simpa using fun hgone => hnot ⟨e, ⟨he, hgone⟩, rfl⟩⟩, rfl⟩

/-- One call keeps the registry's history: a task is registered after it exactly when the last
registration change about it, before and during the call, added it. -/
theorem mem_ids_perform {eng : Engine σ} {log : List Registration} (h : eng.ids.Nodup)
    (hlog : ∀ taskId, taskId ∈ eng.ids ↔
      Registration.lastFor taskId log = some (.added taskId))
    (c : Call) (taskId : String) :
    taskId ∈ (eng.perform c).ids ↔
      Registration.lastFor taskId (log ++ eng.registrations c) = some (.added taskId) := by
  rw [Registration.lastFor_append]
  cases c with
  | start now req spawn =>
    cases spawn with
    | error err =>
      have ⟨hsame, hfail⟩ := startSpawning_error eng now req err
      simp only [perform, registrations, ids, hsame]
      split
      · next id hok => exact absurd hok (hfail id)
      · exact hlog taskId
    | ok u =>
      rcases start_cases eng now req with ⟨err, -, hs⟩ | ⟨-, hok, hids⟩
      · simp only [perform, registrations, startSpawning_ok, hs]
        exact hlog taskId
      · simp only [perform, registrations, startSpawning_ok, hok, hids, List.mem_append,
          List.mem_singleton, List.foldl_cons, List.foldl_nil, Registration.taskId]
        by_cases hid : req.taskId = taskId
        · subst hid
          simp
        · simp [hid, Ne.symm hid, hlog taskId]
  | pause id => simpa [perform, registrations] using hlog taskId
  | resume now id spawn => simpa [perform, registrations] using hlog taskId
  | cancel id =>
    rcases cancel_cases eng id with ⟨-, hc⟩ | ⟨-, htrue, hids⟩
    · simpa [perform, registrations, hc] using hlog taskId
    · simp only [perform, registrations, htrue, hids, if_true, List.mem_filter,
        List.foldl_cons, List.foldl_nil, Registration.taskId, bne_iff_ne, ne_eq]
      by_cases hid : id = taskId
      · subst hid
        simp
      · simp [hid, Ne.symm hid, hlog taskId]
  | cleanup =>
    simp only [perform, registrations]
    rw [Registration.foldl_removed, mem_ids_cleanup h]
    split
    · next hgone => simp [hgone]
    · next hgone => simp [hgone, hlog]
  | shutdown => simpa [perform, registrations] using hlog taskId

/-- A task is registered exactly when the last registration change about it added it. -/
theorem Life.mem_ids_iff {eng : Engine σ} {log : List Registration} (h : Life eng log)
    (taskId : String) :
    taskId ∈ eng.ids ↔ Registration.lastFor taskId log = some (.added taskId) := by
  induction h generalizing taskId with
  | new setup net world => simp [ids, Engine.new, Registration.lastFor]
  | call hlife c ih => exact mem_ids_perform hlife.nodup ih c taskId
  | work _ _ _ ih => rw [ids_putEntry]; exact ih taskId

theorem Life.registered_iff {eng : Engine σ} {log : List Registration} (h : Life eng log)
    (taskId : String) :
    (eng.get? taskId).isSome ↔ Registration.lastFor taskId log = some (.added taskId) := by
  rw [isSome_get?_iff]
  exact h.mem_ids_iff taskId

/-! ## Lookups in a registry with unique ids -/

/-- With ids unique, the lookup of an id finds exactly the entry that has it. -/
theorem entry?_eq_some_iff {eng : Engine σ} (h : eng.ids.Nodup) {taskId : String} {e : Entry} :
    eng.entry? taskId = some e ↔ e ∈ eng.entries ∧ e.task.taskId = taskId := by
  refine ⟨entry?_eq_some, ?_⟩
  rintro ⟨he, rfl⟩
  obtain ⟨e', he'⟩ := Option.isSome_iff_exists.mp
    ((isSome_entry?_iff eng _).mpr (List.mem_map_of_mem he))
  obtain ⟨hm, hk⟩ := entry?_eq_some he'
  rw [he', List.inj_on_of_nodup_map h hm he hk]

theorem get?_eq_some_iff {eng : Engine σ} (h : eng.ids.Nodup) {taskId : String} {t : Task} :
    eng.get? taskId = some t ↔ ∃ e ∈ eng.entries, e.task = t ∧ t.taskId = taskId := by
  simp only [get?, Option.map_eq_some_iff]
  constructor
  · rintro ⟨e, he, rfl⟩
    obtain ⟨hm, hk⟩ := (entry?_eq_some_iff h).mp he
    exact ⟨e, hm, rfl, hk⟩
  · rintro ⟨e, hm, rfl, hk⟩
    exact ⟨e, (entry?_eq_some_iff h).mpr ⟨hm, hk⟩, rfl⟩

/-- With ids unique, a record is among the registered ones exactly when the lookup of its id
finds it. -/
theorem mem_tasks_iff {eng : Engine σ} (h : eng.ids.Nodup) (t : Task) :
    t ∈ eng.entries.map (·.task) ↔ eng.get? t.taskId = some t := by
  rw [get?_eq_some_iff h]
  simp

/-! ## What each call answers -/

/-- A pause is granted exactly to a registered task that prepares or downloads. -/
theorem pause_snd_iff (eng : Engine σ) (taskId : String) :
    (eng.pause taskId).2 = true ↔
      ∃ t, eng.get? taskId = some t ∧ (t.status = .preparing ∨ t.status = .downloading) := by
  unfold pause get?
  cases he : eng.entry? taskId with
  | none => simp
  | some e =>
    by_cases hs : e.task.status = .preparing ∨ e.task.status = .downloading
    · simp [hs]
    · simp [hs]

/-- A pause, a resume or a cancel of a task that is not registered answers `false` and changes
nothing. -/
theorem calls_of_unregistered {eng : Engine σ} {taskId : String} (h : eng.get? taskId = none)
    (now : Moment) (spawn : Except IoError Unit) :
    eng.pause taskId = (eng, false) ∧ eng.resumeSpawning now taskId spawn = (eng, false) ∧
      eng.cancel taskId = (eng, false) := by
  rw [get?_eq_none_iff] at h
  refine ⟨by simp [pause, h], ?_, by simp [cancel, h]⟩
  cases spawn <;> simp [resumeSpawning, resume, h]

/-- A resume of a task that is not paused answers `false` and changes nothing. -/
theorem resumeSpawning_of_not_paused {eng : Engine σ} {taskId : String}
    (h : ∀ t, eng.get? taskId = some t → t.status ≠ .paused) (now : Moment)
    (spawn : Except IoError Unit) : eng.resumeSpawning now taskId spawn = (eng, false) := by
  cases he : eng.entry? taskId with
  | none => exact (calls_of_unregistered (by simp [get?, he]) now spawn).2.1
  | some e =>
    have hs : e.task.status ≠ .paused := h e.task (by simp [get?, he])
    cases spawn <;> simp [resumeSpawning, resume, he, hs]

/-- A resume answers `true` only for a registered paused task. -/
theorem paused_of_resumeSpawning {eng : Engine σ} {now : Moment} {taskId : String}
    {spawn : Except IoError Unit} (h : (eng.resumeSpawning now taskId spawn).2 = true) :
    ∃ t, eng.get? taskId = some t ∧ t.status = .paused := by
  by_contra hne
  have hnot : ∀ t, eng.get? taskId = some t → t.status ≠ .paused :=
    fun t ht hp => hne ⟨t, ht, hp⟩
  rw [resumeSpawning_of_not_paused hnot] at h
  exact Bool.false_ne_true h

/-- A run replaces its entry by the one it settled. -/
theorem get?_run (eng : Engine σ) (now : Moment) (e : Entry) :
    (eng.run now e).get? e.task.taskId =
      (eng.get? e.task.taskId).map fun _ =>
        (runTask eng.setup eng.net now (eng.forest.signal e.token) e eng.world).1.task := by
  have hid := runTask_taskId eng.setup eng.net now (eng.forest.signal e.token) e eng.world
  unfold run
  generalize runTask eng.setup eng.net now (eng.forest.signal e.token) e eng.world = ran at hid ⊢
  obtain ⟨e', world⟩ := ran
  show (Engine.entry? (eng.putEntry { e' with outbox := [], worker := e.worker })
    e.task.taskId).map (·.task) = _
  rw [entry?_putEntry, if_pos hid]
  simp [get?, Option.map_map, Function.comp_def]

@[simp] theorem putEntry_setup (eng : Engine σ) (e : Entry) : (eng.putEntry e).setup = eng.setup :=
  rfl

@[simp] theorem putEntry_net (eng : Engine σ) (e : Entry) : (eng.putEntry e).net = eng.net := rfl

@[simp] theorem putEntry_forest (eng : Engine σ) (e : Entry) : (eng.putEntry e).forest = eng.forest :=
  rfl

@[simp] theorem putEntry_world (eng : Engine σ) (e : Entry) : (eng.putEntry e).world = eng.world :=
  rfl

/-- Putting an entry under a registered id makes the lookup of the id find it. -/
theorem get?_putEntry_self {eng : Engine σ} {taskId : String} {e : Entry}
    (hreg : taskId ∈ eng.ids) (hid : e.task.taskId = taskId) :
    (eng.putEntry e).get? taskId = some e.task := by
  obtain ⟨old, hold⟩ := Option.isSome_iff_exists.mp ((isSome_entry?_iff eng taskId).mpr hreg)
  rw [get?, entry?_putEntry, if_pos hid, hold]
  rfl

/-- The lookup reads only the entries. -/
theorem get?_of_entries {a b : Engine σ} (h : a.entries = b.entries) (taskId : String) :
    a.get? taskId = b.get? taskId := by
  simp only [get?, h, entry?]

/-- Running an entry put under a registered id leaves the lookup of the id on the settled entry. -/
theorem get?_run_putEntry {eng : Engine σ} {taskId : String} {e : Entry}
    (hreg : taskId ∈ eng.ids) (hid : e.task.taskId = taskId) (now : Moment) :
    ((eng.putEntry e).run now e).get? taskId =
      some (runTask eng.setup eng.net now (eng.forest.signal e.token) e eng.world).1.task := by
  have hrun := get?_run (eng.putEntry e) now e
  rw [hid, get?_putEntry_self hreg hid, Option.map_some] at hrun
  rw [hrun]
  simp only [putEntry_setup, putEntry_net, putEntry_forest, putEntry_world]

/-- A resume of a paused task runs the task moved to `downloading`, put in its place, under a
token that no signal has reached. -/
theorem resume_of_paused_eq {eng : Engine σ} {taskId : String} {e : Entry}
    (he : eng.entry? taskId = some e) (hp : e.task.status = .paused) (now : Moment) :
    ∃ (pre : Engine σ) (moved : Entry), pre.entries = eng.entries ∧
      pre.forest.signal moved.token = none ∧ moved.task = (e.transition .downloading).2.task ∧
      eng.resume now taskId = ((pre.putEntry moved).run now moved, true) := by
  refine ⟨{ eng with forest := eng.forest.newToken.1, spawned := eng.spawned + 1
                     joined := eng.joined ++ (e.transition .downloading).2.worker.toList },
    { (e.transition .downloading).2 with token := eng.forest.newToken.2
                                         worker := some eng.spawned },
    rfl, Forest.signal_newToken eng.forest, rfl, ?_⟩
  unfold resume
  rw [he]
  simp only [hp, ne_eq, not_true_eq_false, if_false]
  rw [Entry.transition_downloading_pair hp]

/-- A resume of a paused task, given a thread, answers `true` and leaves the task out of
`paused`: the task runs downloading under a new token, which no pause has reached. -/
theorem resume_of_paused {eng : Engine σ} {taskId : String} {t : Task}
    (ht : eng.get? taskId = some t) (hp : t.status = .paused) (now : Moment) :
    (eng.resume now taskId).2 = true ∧
      ∃ t', (eng.resume now taskId).1.get? taskId = some t' ∧ t'.status ≠ .paused := by
  obtain ⟨e, he, rfl⟩ := Option.map_eq_some_iff.mp ht
  obtain ⟨pre, moved, hentries, hquiet, htask, hres⟩ := resume_of_paused_eq he hp now
  have hreg : taskId ∈ pre.ids := by
    rw [ids, hentries]
    exact mem_ids_of_entry?_eq_some he
  have hE : moved.task.taskId = taskId := by
    rw [htask]
    exact (Entry.transition_taskId e .downloading).trans (entry?_eq_some he).2
  have hdown : moved.task.status = .downloading := by
    rw [htask]
    exact (Entry.transition_downloading_of_paused hp).2
  rw [hres]
  refine ⟨rfl, ?_⟩
  rw [get?_run_putEntry hreg hE now, hquiet]
  exact ⟨_, rfl, runTask_ne_paused hdown _⟩

/-- A resume of a paused task that the system refuses a thread puts the task in its place,
failed with the system's error, and answers `false`. -/
theorem resumeSpawning_error_eq {eng : Engine σ} {taskId : String} {e : Entry}
    (he : eng.entry? taskId = some e) (hp : e.task.status = .paused) (now : Moment)
    (err : IoError) :
    ∃ failed : Entry,
      failed.task =
        ((e.transition .downloading).2.fail ("could not spawn worker: " ++ err.text)).2.task ∧
      failed.worker = none ∧
      (eng.resumeSpawning now taskId (.error err)).1.entries = (eng.putEntry failed).entries ∧
      (eng.resumeSpawning now taskId (.error err)).1.retired = eng.retired ∧
      (eng.resumeSpawning now taskId (.error err)).1.joined = eng.joined ∧
      (eng.resumeSpawning now taskId (.error err)).1.spawned = eng.spawned ∧
      (eng.resumeSpawning now taskId (.error err)).2 = false := by
  refine ⟨{ ((e.transition .downloading).2.fail ("could not spawn worker: " ++ err.text)).2 with
    outbox := [], worker := none }, rfl, rfl, ?_⟩
  unfold resumeSpawning
  rw [he]
  simp only [hp, ne_eq, not_true_eq_false, if_false]
  rw [Entry.transition_downloading_pair hp]
  dsimp only
  exact ⟨rfl, rfl, rfl, rfl, rfl⟩

/-- A resume of a paused task that the system refuses a thread answers `false` and fails the
task with the system's error. -/
theorem resumeSpawning_error_of_paused {eng : Engine σ} {taskId : String} {t : Task}
    (ht : eng.get? taskId = some t) (hp : t.status = .paused) (now : Moment) (err : IoError) :
    (eng.resumeSpawning now taskId (.error err)).2 = false ∧
      ∃ t', (eng.resumeSpawning now taskId (.error err)).1.get? taskId = some t' ∧
        t'.status = .error ∧ t'.errorMessage = some ("could not spawn worker: " ++ err.text) := by
  obtain ⟨e, he, rfl⟩ := Option.map_eq_some_iff.mp ht
  obtain ⟨failed, htask, -, hentries, -, -, -, hanswer⟩ := resumeSpawning_error_eq he hp now err
  have hdown := (Entry.transition_downloading_of_paused hp).2
  -- the moved task is downloading, so the failure reaches it
  have hfailed : failed.task = ((e.transition .downloading).2.task.markFailed
      ("could not spawn worker: " ++ err.text)).2 := by
    rw [htask, Entry.fail_task, Entry.started_of_ne (by rw [hdown]; decide)]
  have hid : failed.task.taskId = taskId := by
    rw [hfailed, Task.markFailed_taskId, Entry.transition_taskId]
    exact (entry?_eq_some he).2
  have hreg : taskId ∈ eng.ids := mem_ids_of_entry?_eq_some he
  refine ⟨hanswer, failed.task, ?_, ?_⟩
  · rw [get?_of_entries hentries]
    exact get?_putEntry_self hreg hid
  · rw [hfailed]
    exact ⟨Task.markFailed_status hdown _, Task.markFailed_errorMessage hdown _⟩

/-- Resume calls on one task taken in turn, as the registry lock orders calls made at once,
each with what the system answered when it asked for a thread: the engine after them, and
their answers in order. -/
def resumeInTurn (eng : Engine σ) (taskId : String) :
    List (Moment × Except IoError Unit) → Engine σ × List Bool
  | [] => (eng, [])
  | (now, spawn) :: rest =>
    let step := eng.resumeSpawning now taskId spawn
    let after := step.1.resumeInTurn taskId rest
    (after.1, step.2 :: after.2)

theorem not_paused_of_get? {eng : Engine σ} {taskId : String} {t : Task}
    (ht : eng.get? taskId = some t) (hs : t.status ≠ .paused) :
    ∀ t', eng.get? taskId = some t' → t'.status ≠ .paused := by
  intro t' ht'
  rw [ht, Option.some.injEq] at ht'
  exact ht' ▸ hs

/-- Resume calls on a task that is not paused all answer `false` and change nothing. -/
theorem resumeInTurn_of_not_paused {eng : Engine σ} {taskId : String}
    (h : ∀ t, eng.get? taskId = some t → t.status ≠ .paused)
    (calls : List (Moment × Except IoError Unit)) :
    eng.resumeInTurn taskId calls = (eng, calls.map fun _ => false) := by
  induction calls with
  | nil => rfl
  | cons call rest ih =>
    obtain ⟨now, spawn⟩ := call
    simp only [resumeInTurn, resumeSpawning_of_not_paused h, ih, List.map_cons]

/-- Of resume calls in turn on a paused task, the first answers `true` exactly when its run got
a thread, and every later one answers `false`: the first leaves the task out of `paused`, and
failed with the system's error when its thread was refused. -/
theorem resumeInTurn_of_paused {eng : Engine σ} {taskId : String} {t : Task}
    (ht : eng.get? taskId = some t) (hp : t.status = .paused) (now : Moment)
    (spawn : Except IoError Unit) (rest : List (Moment × Except IoError Unit)) :
    (eng.resumeInTurn taskId ((now, spawn) :: rest)).2 =
        spawn.isOk :: rest.map (fun _ => false) ∧
      ∃ t', (eng.resumeInTurn taskId ((now, spawn) :: rest)).1.get? taskId = some t' ∧
        t'.status ≠ .paused ∧
        ∀ err, spawn = .error err → t'.status = .error ∧
          t'.errorMessage = some ("could not spawn worker: " ++ err.text) := by
  cases spawn with
  | ok u =>
    obtain ⟨hanswer, t', hget, hs⟩ := resume_of_paused ht hp now
    have hfirst : eng.resumeSpawning now taskId (.ok u) = eng.resume now taskId := rfl
    simp only [resumeInTurn, hfirst, resumeInTurn_of_not_paused (not_paused_of_get? hget hs),
      hanswer]
    exact ⟨rfl, t', hget, hs, fun err h => nomatch h⟩
  | error err =>
    obtain ⟨hanswer, t', hget, hs, hmsg⟩ := resumeSpawning_error_of_paused ht hp now err
    have hnot : t'.status ≠ .paused := by rw [hs]; decide
    simp only [resumeInTurn, resumeInTurn_of_not_paused (not_paused_of_get? hget hnot), hanswer]
    exact ⟨rfl, t', hget, hnot, fun err' h => by cases h; exact ⟨hs, hmsg⟩⟩

/-! ## Cleanup and listing -/

/-- With ids unique, a cleanup drops exactly the tasks in a terminal status from the lookup. -/
theorem get?_cleanup {eng : Engine σ} (h : eng.ids.Nodup) (taskId : String) :
    eng.cleanup.1.get? taskId = (eng.get? taskId).filter fun t => !t.status.isTerminal := by
  have hkept : eng.cleanup.1.ids.Nodup := nodup_perform h .cleanup
  apply Option.ext
  intro t
  rw [get?_eq_some_iff hkept, Option.filter_eq_some_iff, get?_eq_some_iff h, cleanup_entries]
  simp only [List.mem_filter]
  constructor
  · rintro ⟨e, ⟨he, hlive⟩, rfl, hid⟩
    exact ⟨⟨e, he, rfl, hid⟩, hlive⟩
  · rintro ⟨⟨e, he, rfl, hid⟩, hlive⟩
    exact ⟨e, ⟨he, hlive⟩, rfl, hid⟩

/-- A cleanup answers how many tasks it removed: those in a terminal status. -/
theorem cleanup_snd (eng : Engine σ) :
    eng.cleanup.2 = (eng.entries.filter (·.task.status.isTerminal)).length ∧
      eng.cleanup.2 + eng.cleanup.1.entries.length = eng.entries.length := by
  have hcount : eng.cleanup.2 = (eng.entries.filter (·.task.status.isTerminal)).length := by
    simp only [cleanup, List.partition_eq_filter_filter]
  refine ⟨hcount, ?_⟩
  rw [hcount, cleanup_entries]
  exact (List.length_eq_length_filter_add _).symm

/-- A cleanup removes no file. -/
theorem cleanup_world (eng : Engine σ) : eng.cleanup.1.world = eng.world := rfl

/-- With ids unique, a listing holds exactly the registered tasks of its project, or all of them
when no project is named. -/
theorem mem_list_iff {eng : Engine σ} (h : eng.ids.Nodup) (projectId : Option String) (t : Task) :
    t ∈ eng.list projectId ↔
      eng.get? t.taskId = some t ∧ ∀ p, projectId = some p → t.projectId = p := by
  unfold list
  rw [(List.mergeSort_perm _ _).mem_iff, List.mem_filter, mem_tasks_iff h]
  cases projectId <;> simp

/-- With ids unique, a listing names each task once. -/
theorem list_nodup {eng : Engine σ} (h : eng.ids.Nodup) (projectId : Option String) :
    ((eng.list projectId).map (·.taskId)).Nodup := by
  unfold list
  rw [((List.mergeSort_perm _ _).map _).nodup_iff]
  have hsub := (List.filter_sublist (l := eng.entries.map (·.task))
    (p := fun t => projectId.all (t.projectId == ·))).map (·.taskId)
  rw [List.map_map] at hsub
  exact h.sublist hsub

/-- A listing is ordered by start time and then id. -/
theorem list_sorted (eng : Engine σ) (projectId : Option String) :
    (eng.list projectId).Pairwise fun a b =>
      a.startedAt < b.startedAt ∨ (a.startedAt = b.startedAt ∧ a.taskId ≤ b.taskId) := by
  unfold list
  refine (List.pairwise_mergeSort ?_ ?_ _).imp fun hab => of_decide_eq_true hab
  · intro a b c hab hbc
    simp only [decide_eq_true_eq] at hab hbc ⊢
    rcases hab with hab | ⟨hab, hab'⟩ <;> rcases hbc with hbc | ⟨hbc, hbc'⟩
    · exact .inl (Nat.lt_trans hab hbc)
    · exact .inl (hbc ▸ hab)
    · exact .inl (hab ▸ hbc)
    · exact .inr ⟨hab.trans hbc, String.le_trans hab' hbc'⟩
  · intro a b
    simp only [Bool.or_eq_true, decide_eq_true_eq]
    rcases Nat.lt_trichotomy a.startedAt b.startedAt with hlt | heq | hgt
    · exact .inl (.inl hlt)
    · rcases String.le_total a.taskId b.taskId with hle | hle
      · exact .inl (.inr ⟨heq, hle⟩)
      · exact .inr (.inr ⟨heq.symm, hle⟩)
    · exact .inr (.inl hgt)

/-- The registry's semantics. Over every life of the engine, ids stay unique, a task is
registered exactly when its last registration change added it, a cleanup drops exactly the
tasks in a terminal status, and a listing holds exactly the registered tasks of its project,
each once. Of every engine: a cleanup counts what it removes and removes no file; a listing is
ordered by start time and then id; a pause is granted exactly to a registered task that
prepares or downloads; a resume answers `true` only for a registered paused task; of resume
calls in turn on a paused task the first answers `true` exactly when its run got a thread and
no later one does, the task failing when the thread was refused; and a pause, a resume or a
cancel of a task that is not registered answers `false` and changes nothing. -/
theorem registry_semantics :
    (∀ (σ : Type) (eng : Engine σ) (log : List Registration), Life eng log →
      eng.ids.Nodup ∧
      (∀ taskId, (eng.get? taskId).isSome ↔
        Registration.lastFor taskId log = some (.added taskId)) ∧
      (∀ taskId, eng.cleanup.1.get? taskId =
        (eng.get? taskId).filter fun t => !t.status.isTerminal) ∧
      (∀ projectId t, t ∈ eng.list projectId ↔
        eng.get? t.taskId = some t ∧ ∀ p, projectId = some p → t.projectId = p) ∧
      (∀ projectId, ((eng.list projectId).map (·.taskId)).Nodup)) ∧
    (∀ (σ : Type) (eng : Engine σ),
      eng.cleanup.2 = (eng.entries.filter (·.task.status.isTerminal)).length ∧
      eng.cleanup.2 + eng.cleanup.1.entries.length = eng.entries.length ∧
      eng.cleanup.1.world = eng.world) ∧
    (∀ (σ : Type) (eng : Engine σ) (projectId : Option String),
      (eng.list projectId).Pairwise fun a b =>
        a.startedAt < b.startedAt ∨ (a.startedAt = b.startedAt ∧ a.taskId ≤ b.taskId)) ∧
    (∀ (σ : Type) (eng : Engine σ) (taskId : String),
      (eng.pause taskId).2 = true ↔
        ∃ t, eng.get? taskId = some t ∧ (t.status = .preparing ∨ t.status = .downloading)) ∧
    (∀ (σ : Type) (eng : Engine σ) (now : Moment) (taskId : String)
        (spawn : Except IoError Unit),
      (eng.resumeSpawning now taskId spawn).2 = true →
        ∃ t, eng.get? taskId = some t ∧ t.status = .paused) ∧
    (∀ (σ : Type) (eng : Engine σ) (taskId : String) (t : Task), eng.get? taskId = some t →
      t.status = .paused → ∀ now spawn rest,
        (eng.resumeInTurn taskId ((now, spawn) :: rest)).2 =
          spawn.isOk :: rest.map (fun _ => false) ∧
        ∃ t', (eng.resumeInTurn taskId ((now, spawn) :: rest)).1.get? taskId = some t' ∧
          t'.status ≠ .paused ∧
          ∀ err, spawn = .error err → t'.status = .error ∧
            t'.errorMessage = some ("could not spawn worker: " ++ err.text)) ∧
    (∀ (σ : Type) (eng : Engine σ) (taskId : String), eng.get? taskId = none →
      ∀ now spawn, eng.pause taskId = (eng, false) ∧
        eng.resumeSpawning now taskId spawn = (eng, false) ∧ eng.cancel taskId = (eng, false)) := by
  refine ⟨?life, fun _ eng => ⟨(cleanup_snd eng).1, (cleanup_snd eng).2, cleanup_world eng⟩,
    fun _ eng projectId => list_sorted eng projectId, fun _ eng taskId => pause_snd_iff eng taskId,
    fun _ _ _ _ _ h => paused_of_resumeSpawning h,
    fun _ _ _ _ ht hp now spawn rest => resumeInTurn_of_paused ht hp now spawn rest,
    fun _ _ _ h now spawn => calls_of_unregistered h now spawn⟩
  case life =>
    intro σ eng log h
    have hnodup := h.nodup
    exact ⟨hnodup, h.registered_iff, get?_cleanup hnodup, mem_list_iff hnodup,
      list_nodup hnodup⟩

end Engine

end Controller

end DownloadEngine
