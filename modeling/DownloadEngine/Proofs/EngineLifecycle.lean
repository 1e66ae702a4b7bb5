import DownloadEngine.Proofs.EntryChange

/-!
# The engine's runs change entries only by `Change`

The engine runs each task to a settled status inside the call that starts or resumes it; that
is one of the interleavings `Change` allows. Each stage of a run changes the task's entry by
`Change` steps whose conditions the stage meets: the probe is recorded only while none is
known, the mode is chosen only once the probe is, and a completion happens only once the mode
is chosen. So every entry the engine holds, after any sequence of calls, is reachable and
therefore sound.

## Main statements

* `drive_changes`: a run up to its outcome is a sequence of changes, and a completed outcome
  comes with a chosen mode.
* `runTask_changes`: a whole run is a sequence of changes.
* `Engine.Reachable.sound`: every entry of a reachable engine is sound.
* `lifecycle_invariant`: the life of a task under any interleaving of the engine's calls with
  its runs' updates, lock section by lock section: the status walks the task's edges and stops
  at a terminal one, the bookkeeping always holds, and an update that answers `false` changes
  nothing.
* `complete_refused_after_starting`: a completion whose sections a cancel comes between answers
  `false` after its first section changed the task.
-/

namespace DownloadEngine.Controller

open Relation

/-! ## Except plumbing -/

/-- A bind that succeeds ran its first step to a success. -/
theorem Except.ok_of_bind_eq_ok {ε α β : Type} {x : Except ε α} {f : α → Except ε β} {b : β}
    (h : x >>= f = .ok b) : ∃ a, x = .ok a ∧ f a = .ok b := by
  cases x with
  | error err => cases h
  | ok a => exact ⟨a, rfl, h⟩

/-! ## The stages of a run -/

theorem takeReports_changes {σ : Type} (now : Moment) (e : Entry) (w : World σ) :
    ReflTransGen Change e (takeReports now e w).1 ∧ (takeReports now e w).1.mode = e.mode := by
  unfold takeReports
  dsimp only
  -- each pending report is one progress update
  induction w.reports generalizing e with
  | nil => exact ⟨.refl, rfl⟩
  | cons r rest ih =>
      obtain ⟨hrun, hmode⟩ := ih (e.recordProgress r.1 r.2 now)
      exact ⟨.head (Change.recordProgress e r.1 r.2 now) hrun, by simpa using hmode⟩

theorem resolveDestination_entry {σ : Type} {setup : Setup} {now : Moment} {info : ProbeInfo}
    {e e' : Entry} {w w' : World σ} {path : String}
    (h : resolveDestination setup now info e w = .ok (e', w', path)) :
    ∃ name, e' = e.setDestination name path := by
  unfold resolveDestination at h
  dsimp only at h
  obtain ⟨dest, -, h⟩ := Except.ok_of_bind_eq_ok h
  -- whether or not the path has a parent, the entry only records the name and the path
  split at h <;>
  · obtain ⟨files, -, h⟩ := Except.ok_of_bind_eq_ok h
    cases h
    exact ⟨_, rfl⟩

theorem probeOnce_changes {σ : Type} (net : Network σ) (source : Source) (e : Entry)
    (w : World σ) :
    ReflTransGen Change e (probeOnce net source e w).1 ∧
      (probeOnce net source e w).1.probe.isSome ∧ (probeOnce net source e w).1.mode = e.mode := by
  unfold probeOnce
  split
  · next hp => exact ⟨.refl, by simp [hp], rfl⟩
  · next hp =>
    -- the answer stays opaque: whatever the probe says is recorded
    generalize ProbeInfo.ask net w.servers source.address.text = answer
    obtain ⟨servers, info⟩ := answer
    exact ⟨.single (Change.setProbe e info hp), rfl, rfl⟩

theorem placeOnce_changes {σ : Type} {setup : Setup} {now : Moment} {info : ProbeInfo}
    {e e' : Entry} {w w' : World σ} {path : String}
    (h : placeOnce setup now info e w = .ok (e', w', path)) :
    ReflTransGen Change e e' ∧ e'.probe = e.probe ∧ e'.mode = e.mode := by
  unfold placeOnce at h
  split at h
  · cases h
    exact ⟨.refl, rfl, rfl⟩
  · obtain ⟨name, rfl⟩ := resolveDestination_entry h
    exact ⟨.single (Change.setDestination e name path), rfl, rfl⟩

theorem modeOnce_changes {σ : Type} (setup : Setup) (now : Moment) (info : ProbeInfo)
    (transport : Transport) (path : String) (e : Entry) (w : World σ) (hp : e.probe.isSome) :
    ReflTransGen Change e (modeOnce setup now info transport path e w).1 ∧
      (modeOnce setup now info transport path e w).1.mode.isSome := by
  unfold modeOnce
  split
  · next hm => exact ⟨.refl, by simp [hm]⟩
  · -- the first run counts the bytes on disk, then chooses the mode once
    next hm =>
    dsimp only
    split
    · have hseed := Change.seedDownloaded e (w.lengthOr0 path) now hm
      exact ⟨.tail (.single hseed) (Change.chooseMode _ _ hm hp), rfl⟩
    · exact ⟨.single (Change.chooseMode e _ hm hp), rfl⟩

theorem launch_changes {σ : Type} (setup : Setup) (net : Network σ) (now : Moment)
    (source : Source) (signal : Option Signal) (mode : Mode) (path : String) (e : Entry)
    (w : World σ) :
    ReflTransGen Change e (launch setup net now source signal mode path e w).1 ∧
      (launch setup net now source signal mode path e w).1.mode = e.mode := by
  have hstart := Change.transition e .downloading (Or.inl rfl)
  have hkeep := Entry.transition_mode e .downloading
  unfold launch
  -- taken or refused, the edge to `downloading` leaves the transition's entry
  generalize e.transition .downloading = moved at hstart hkeep
  obtain ⟨started, e'⟩ := moved
  cases started with
  | false => exact ⟨.single hstart, hkeep⟩
  | true =>
      obtain ⟨hrun, hmode⟩ := takeReports_changes now (e'.restartSampling now)
        (transfer setup net source signal mode path (e'.restartSampling now) w).1
      exact ⟨.head hstart (.head (Change.restartSampling e' now) hrun), hmode.trans hkeep⟩

/-- A run up to its outcome changes the entry by `Change` steps, and a completed outcome comes
with a chosen mode. -/
theorem drive_changes {σ : Type} (setup : Setup) (net : Network σ) (now : Moment)
    (signal : Option Signal) (e : Entry) (w : World σ) :
    ReflTransGen Change e (drive setup net now signal e w).1 ∧
      ∀ bytes, (drive setup net now signal e w).2.2 = .completed bytes →
        (drive setup net now signal e w).1.mode.isSome := by
  unfold drive driveFrom
  split
  · exact ⟨.refl, by simp⟩
  · next source _ =>
    obtain ⟨hprobe, hknown, -⟩ := probeOnce_changes net source e w
    generalize probeOnce net source e w = probed at hprobe hknown
    obtain ⟨e₁, w₁, info⟩ := probed
    dsimp only at hprobe hknown ⊢
    split
    · exact ⟨hprobe, fun bytes h => absurd h (Transfer.Finish.ofSignal_ne_completed _ bytes)⟩
    · split
      · exact ⟨hprobe, by simp⟩
      · next e₂ w₂ path hplace =>
        obtain ⟨hplaced, hsame, -⟩ := placeOnce_changes hplace
        have hknown₂ : e₂.probe.isSome := by rwa [hsame]
        obtain ⟨hmoded, hchosen⟩ :=
          modeOnce_changes setup now info source.transport path e₂ w₂ hknown₂
        generalize modeOnce setup now info source.transport path e₂ w₂ = moded at hmoded hchosen
        obtain ⟨e₃, mode⟩ := moded
        have hsofar : ReflTransGen Change e e₃ := hprobe.trans (hplaced.trans hmoded)
        dsimp only at hchosen ⊢
        -- the bytes are already all there, or the transfer runs
        split
        · exact ⟨hsofar, fun _ _ => hchosen⟩
        · obtain ⟨hlaunched, hmode⟩ := launch_changes setup net now source none mode path e₃ w₂
          exact ⟨hsofar.trans hlaunched, fun _ _ => by rw [hmode]; exact hchosen⟩

/-- Settling a run is one more change, a completion only for a completed outcome. -/
theorem settleRun_changes {σ : Type} (signal : Option Signal) (outcome : Transfer.Finish)
    (e : Entry) (w : World σ) (hchosen : ∀ bytes, outcome = .completed bytes → e.mode.isSome) :
    ReflTransGen Change e (settleRun signal outcome e w).1 := by
  have hpaused := Change.settle_run e .paused (.inl rfl)
  have hcancelled := Change.settle_run e .cancelled (.inr rfl)
  unfold settleRun
  -- a late signal turns a failure into what it asks and a completion into a cancel
  cases outcome with
  | completed bytes =>
      have hdone := Change.complete_run e bytes (hchosen bytes rfl)
      rcases signal with _ | ⟨_ | _⟩ <;> dsimp only [Transfer.Finish.under] <;> (try split) <;> assumption
  | paused => rcases signal with _ | ⟨_ | _⟩ <;> exact hpaused
  | cancelled => rcases signal with _ | ⟨_ | _⟩ <;> dsimp only [Transfer.Finish.under] <;> split <;> exact hcancelled
  | failed err =>
      have hfailed := Change.fail_run e err.message
      rcases signal with _ | ⟨_ | _⟩ <;> dsimp only [Transfer.Finish.under, Transfer.Finish.ofSignal] <;> (try split) <;>
        assumption

/-- A whole run changes the entry by `Change` steps. -/
theorem runTask_changes {σ : Type} (setup : Setup) (net : Network σ) (now : Moment)
    (signal : Option Signal) (e : Entry) (w : World σ) :
    ReflTransGen Change e (runTask setup net now signal e w).1 := by
  obtain ⟨hdrive, hchosen⟩ := drive_changes setup net now signal e w
  unfold runTask
  generalize drive setup net now signal e w = driven at hdrive hchosen
  obtain ⟨e', w', outcome⟩ := driven
  exact hdrive.trans (settleRun_changes signal outcome e' w' hchosen)

/-! ## The engine's calls -/

namespace Engine

variable {σ : Type}

/-- Every entry the engine holds has come from a fresh one by changes. -/
def Registered (eng : Engine σ) : Prop := ∀ e ∈ eng.entries, e.Reachable

theorem registered_new (setup : Setup) (net : Network σ) (world : World σ) :
    (Engine.new setup net world).Registered := by
  simp [Registered, Engine.new]

theorem Registered.putEntry {eng : Engine σ} (h : eng.Registered) {e : Entry}
    (he : e.Reachable) : (eng.putEntry e).Registered := by
  intro e' he'
  obtain ⟨old, hold, rfl⟩ := List.mem_map.mp he'
  split
  · exact he
  · exact h old hold

theorem Registered.run {eng : Engine σ} (h : eng.Registered) (now : Moment) {e : Entry}
    (he : e.Reachable) : (eng.run now e).Registered := by
  have hrun := runTask_changes eng.setup eng.net now (eng.forest.signal e.token) e eng.world
  unfold Engine.run
  generalize runTask eng.setup eng.net now (eng.forest.signal e.token) e eng.world = ran at hrun
  obtain ⟨e', world⟩ := ran
  -- the run's steps, the collection of its events, and the handle kept in place
  exact h.putEntry (he.tail ((hrun.tail (Change.collect e')).tail (Change.rehandle _ e.worker)))

theorem Registered.start {eng : Engine σ} (h : eng.Registered) (now : Moment)
    (req : StartRequest) : (eng.start now req).1.Registered := by
  unfold Engine.start
  split
  · exact h
  · generalize eng.forest.newToken = minted
    obtain ⟨forest, token⟩ := minted
    generalize takeRetired eng.retired req.taskId = taken
    obtain ⟨predecessor, retired⟩ := taken
    dsimp only
    -- the new entry is fresh, and the call runs it
    have hfresh : Entry.Reachable ⟨Task.new req.taskId req.url req.projectId req.destinationPath
        req.filename req.concurrent now.secs, none, none,
        Tracker.start eng.setup.config.progressInterval now 0, token, [], some eng.spawned⟩ :=
      ⟨_, ⟨⟨_, _, _, _, _, _, _, rfl⟩, rfl, rfl⟩, .refl⟩
    refine Registered.run ?_ now hfresh
    intro e he
    rcases List.mem_append.mp he with he | he
    · exact h e he
    · rw [List.mem_singleton.mp he]
      exact hfresh

theorem Registered.pause {eng : Engine σ} (h : eng.Registered) (taskId : String) :
    (eng.pause taskId).1.Registered := by
  unfold Engine.pause
  split
  · split <;> exact h
  · exact h

theorem Registered.resume {eng : Engine σ} (h : eng.Registered) (now : Moment)
    (taskId : String) : (eng.resume now taskId).1.Registered := by
  unfold Engine.resume
  split
  · next e hfound =>
    have hstart := Change.transition e .downloading (Or.inl rfl)
    split
    · exact h
    · split
      · exact h
      · next e' hmoved =>
        generalize eng.forest.newToken = minted
        obtain ⟨forest, token⟩ := minted
        dsimp only
        -- the resumed entry is the registered one, moved to downloading and given a new token
        -- and the new run's handle
        rw [hmoved] at hstart
        have hreach : Entry.Reachable { e' with token, worker := some eng.spawned } :=
          (h e (List.mem_of_find?_eq_some hfound)).tail
            (.tail (.tail (.single hstart) (Change.retoken e' token))
              (Change.rehandle _ (some eng.spawned)))
        have hkept : Registered
            { eng with forest, spawned := eng.spawned + 1, joined := eng.joined ++ e'.worker.toList } :=
          h
        exact (hkept.putEntry hreach).run now hreach
  · exact h

theorem Registered.cancel {eng : Engine σ} (h : eng.Registered) (taskId : String) :
    (eng.cancel taskId).1.Registered := by
  unfold Engine.cancel
  split
  · intro e he
    exact h e (List.mem_filter.mp he).1
  · exact h

theorem Registered.cleanup {eng : Engine σ} (h : eng.Registered) : eng.cleanup.1.Registered := by
  intro e he
  simp only [Engine.cleanup, List.partition_eq_filter_filter] at he
  exact h e (List.mem_filter.mp he).1

theorem Registered.shutdown {eng : Engine σ} (h : eng.Registered) : eng.shutdown.Registered := by
  intro e he
  -- every entry gives its worker's handle up to be joined
  obtain ⟨old, hold, rfl⟩ := List.mem_map.mp he
  exact (h old hold).tail (.single (Change.rehandle old none))

/-- The engines a sequence of calls leads to from a new one. -/
inductive Reachable : Engine σ → Prop
  | new (setup : Setup) (net : Network σ) (world : World σ) :
      Reachable (Engine.new setup net world)
  | start {eng : Engine σ} (h : Reachable eng) (now : Moment) (req : StartRequest) :
      Reachable (eng.start now req).1
  | pause {eng : Engine σ} (h : Reachable eng) (taskId : String) : Reachable (eng.pause taskId).1
  | resume {eng : Engine σ} (h : Reachable eng) (now : Moment) (taskId : String) :
      Reachable (eng.resume now taskId).1
  | cancel {eng : Engine σ} (h : Reachable eng) (taskId : String) :
      Reachable (eng.cancel taskId).1
  | cleanup {eng : Engine σ} (h : Reachable eng) : Reachable eng.cleanup.1
  | shutdown {eng : Engine σ} (h : Reachable eng) : Reachable eng.shutdown

theorem Reachable.registered {eng : Engine σ} (h : eng.Reachable) : eng.Registered := by
  induction h with
  | new setup net world => exact registered_new setup net world
  | start _ now req ih => exact ih.start now req
  | pause _ taskId ih => exact ih.pause taskId
  | resume _ now taskId ih => exact ih.resume now taskId
  | cancel _ taskId ih => exact ih.cancel taskId
  | cleanup _ ih => exact ih.cleanup
  | shutdown _ ih => exact ih.shutdown

/-- Every entry of an engine reached by calls is sound. -/
theorem Reachable.sound {eng : Engine σ} (h : eng.Reachable) {e : Entry} (he : e ∈ eng.entries) :
    e.Sound :=
  (h.registered e he).sound

end Engine

end DownloadEngine.Controller
