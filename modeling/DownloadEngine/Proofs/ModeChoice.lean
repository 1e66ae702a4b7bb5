import DownloadEngine.Proofs.RunSettles
import DownloadEngine.Proofs.PlanTiling
import DownloadEngine.Proofs.ChunkSlices

/-!
# The transfer mode is chosen once

A task's first run probes the address, resolves the destination and chooses how to fetch the
bytes, and records all three in the task's entry. Parallel chunks are chosen exactly when the
caller asked for them, the address is HTTP, the probe found ranged requests and a known length,
and nothing, or an empty file, stands at the destination; the plan then has chunks. Otherwise
one stream fetches the file, starting after the bytes already on disk, which count as
downloaded.

What is recorded stays: no update, of the engine or of a run, replaces a recorded probe or mode,
and a run keeps the destination it finds. A first run, once it has chosen, goes on exactly as a
run from what it recorded, and such a run probes nothing and plans nothing. A single stream
whose file already holds the known total completes at once, leaving the world as it was, unless
a stop signal was raised before the run: a cancel then cancels it, and a pause leaves it paused,
not completed.

## Main statements

* `chooseMode_eq`: the rule of the first choice.
* `Change.keeps_recorded`: updates keep a recorded probe and mode.
* `runTask_eq_of_placed`: a first run goes on as a run from the entry it recorded.
* `runTask_of_held_total`: a single stream that already holds the known total completes.
* `transfer_mode_chosen_once`: the choice, its reuse and the early completion together.
* `early_pause_leaves_held_stream_paused`: a task that holds its total, paused before its run.
-/

namespace DownloadEngine

/-! ## Lengths on disk -/

namespace World

variable {σ : Type}

/-- A length reads as zero exactly when nothing, or an empty file, stands at the path: a
directory has a length of its own. -/
theorem lengthOr0_eq_zero_iff (w : World σ) (path : String) :
    w.lengthOr0 path = 0 ↔ w.files.at? path = none ∨ w.files.at? path = some (.file []) := by
  unfold lengthOr0
  cases hl : w.files.length path with
  | error e => simp [FileTree.at?_of_length_error hl]
  | ok n =>
    dsimp only
    rcases FileTree.at?_of_length hl with ⟨b, hb, rfl⟩ | ⟨hd, rfl⟩
    · simp [hb]
    · simp [hd, FileTree.directoryLength]

theorem lengthOr0_of_file {w : World σ} {path : String} {b : List UInt8}
    (h : w.files.at? path = some (.file b)) : w.lengthOr0 path = b.length := by
  simp [lengthOr0, FileTree.length_of_file h]

end World

/-! ## What updates keep of a task -/

namespace Task

@[simp] theorem transition_filePath (t : Task) (next : Status) :
    (t.transition next).2.filePath = t.filePath := by
  unfold transition
  split
  · rfl
  · split
    · split <;> rfl
    · rfl

@[simp] theorem transition_downloadedSize (t : Task) (next : Status) :
    (t.transition next).2.downloadedSize = t.downloadedSize := by
  unfold transition
  split
  · rfl
  · split
    · split <;> rfl
    · rfl

@[simp] theorem transition_totalSize (t : Task) (next : Status) :
    (t.transition next).2.totalSize = t.totalSize := by
  unfold transition
  split
  · rfl
  · split
    · split <;> rfl
    · rfl

@[simp] theorem transition_url (t : Task) (next : Status) :
    (t.transition next).2.url = t.url := by
  unfold transition
  split
  · rfl
  · split
    · split <;> rfl
    · rfl

@[simp] theorem markCompleted_filePath (t : Task) : t.markCompleted.2.filePath = t.filePath := by
  rw [markCompleted_eq]
  split <;> simp

@[simp] theorem markFailed_filePath (t : Task) (message : String) :
    (t.markFailed message).2.filePath = t.filePath := by
  rw [markFailed_eq]
  split <;> simp

/-- Completing a downloading task whose bytes reach a known total counts those bytes as the
whole. -/
theorem markCompleted_setSizes {t : Task} (h : t.status = .downloading) (d total : Nat)
    (hpos : 0 < total) (hle : total ≤ d) :
    (t.setSizes d total).markCompleted.2.status = .completed ∧
      (t.setSizes d total).markCompleted.2.downloadedSize = d ∧
      (t.setSizes d total).markCompleted.2.totalSize = d := by
  have ht := transition_of_canTransitionTo
    (show (t.setSizes d total).status.canTransitionTo .completed = true by
      simp [setSizes, h, Status.canTransitionTo])
  -- the total grows to the bytes, and completing keeps both
  have hmax : (t.setSizes d total).totalSize = d := by
    simp only [setSizes, if_pos hpos]
    omega
  have hd : (t.setSizes d total).downloadedSize = d := rfl
  rw [markCompleted_eq, if_pos ht.1]
  refine ⟨ht.2, ?_, ?_⟩ <;> simp [hd, hmax]

end Task

namespace Controller

open Relation Transfer

variable {σ : Type}

namespace Entry

@[simp] theorem transition_filePath (e : Entry) (next : Status) :
    (e.transition next).2.task.filePath = e.task.filePath := by simp

@[simp] theorem started_filePath (e : Entry) : e.started.task.filePath = e.task.filePath := by
  unfold started; split <;> simp

@[simp] theorem settle_filePath (e : Entry) (next : Status) :
    (e.settle next).2.task.filePath = e.task.filePath := by
  unfold settle; split <;> simp

@[simp] theorem completeLocked_filePath (e : Entry) (bytes : Nat) :
    (e.completeLocked bytes).2.task.filePath = e.task.filePath := by
  rw [completeLocked_task]; split <;> simp [Task.setSizes]

@[simp] theorem failLocked_filePath (e : Entry) (message : String) :
    (e.failLocked message).2.task.filePath = e.task.filePath := by
  rw [failLocked_task]; simp

@[simp] theorem complete_filePath (e : Entry) (bytes : Nat) :
    (e.complete bytes).2.task.filePath = e.task.filePath := by
  rw [complete, completeLocked_filePath, started_filePath]

@[simp] theorem fail_filePath (e : Entry) (message : String) :
    (e.fail message).2.task.filePath = e.task.filePath := by
  rw [fail, failLocked_filePath, started_filePath]

@[simp] theorem recordProgress_filePath (e : Entry) (downloaded total : Nat) (now : Instant) :
    (e.recordProgress downloaded total now).task.filePath = e.task.filePath := by
  unfold recordProgress
  split
  · rfl
  · dsimp only
    split <;> simp [Task.setSizes, Task.applyThroughput]

/-- What a run records of its choices: the probe, the destination and the mode. -/
def Recorded (e : Entry) (info : ProbeInfo) (path : String) (m : Mode) : Prop :=
  e.probe = some info ∧ e.task.filePath = some path ∧ e.mode = some m

end Entry

/-! ## The first choice -/

/-- The mode of a first run: parallel chunks, planned from the probe's length, exactly when the
caller asked for them, the address is HTTP, the server takes ranged requests, the length is
known and nothing is on disk; one stream otherwise. -/
theorem chooseMode_eq (setup : Setup) (info : ProbeInfo) (t : Transport) (concurrent : Bool)
    (onDisk : Nat) :
    chooseMode setup info t concurrent onDisk =
      if concurrent = true ∧ t = .http ∧ info.supportsResume = true ∧ 0 < info.contentLength ∧
          onDisk = 0 then
        .parallel (Chunk.plan info.contentLength setup.config.defaultConcurrency
          setup.config.minChunkBytes setup.cpus)
      else .single := by
  unfold chooseMode
  by_cases hc : concurrent = true ∧ t = .http ∧ info.supportsResume = true ∧
      0 < info.contentLength ∧ onDisk = 0
  · obtain ⟨hcon, rfl, hres, hlen, hdisk⟩ := hc
    -- a known length plans at least one chunk
    have hne : (Chunk.plan info.contentLength setup.config.defaultConcurrency
        setup.config.minChunkBytes setup.cpus).chunks ≠ [] := by
      have hcount := Chunk.length_plan_chunks setup.config.defaultConcurrency
        setup.config.minChunkBytes setup.cpus hlen
      have hpos := Chunk.chunkCount_pos info.contentLength setup.config.defaultConcurrency
        setup.config.minChunkBytes
      exact List.ne_nil_of_length_pos (by omega)
    simp [ProbeInfo.allowsParallel, hcon, hres, hlen, hdisk, hne]
  · rw [if_neg hc]
    -- one condition fails, and each one sends the run to a single stream
    have hstream : onDisk > 0 ∨ (!concurrent) = true ∨ (!info.allowsParallel t) = true := by
      cases concurrent <;> cases t <;> cases hr : info.supportsResume <;>
        simp_all [ProbeInfo.allowsParallel]
      -- left: an HTTP run asked for in parallel, with ranges, but bytes on disk or no length
      omega
    rw [if_pos hstream]

/-- A first run counts the bytes on disk at the destination, chooses the mode from them and
records it. Bytes on disk count as downloaded, the known total grows to them, and they send the
run to a single stream. -/
theorem modeOnce_of_none (setup : Setup) (now : Moment) (info : ProbeInfo) (transport : Transport)
    (path : String) {e : Entry} (he : e.mode = none) (w : World σ) :
    (modeOnce setup now info transport path e w).1.mode =
        some (modeOnce setup now info transport path e w).2 ∧
      (modeOnce setup now info transport path e w).2 =
        chooseMode setup info transport e.task.concurrent (w.lengthOr0 path) ∧
      ∀ b, w.files.at? path = some (.file b) → b ≠ [] →
        (modeOnce setup now info transport path e w).1.task.downloadedSize = b.length ∧
        (modeOnce setup now info transport path e w).1.task.totalSize =
          (if 0 < e.task.totalSize then max e.task.totalSize b.length else 0) := by
  unfold modeOnce
  rw [he]
  refine ⟨rfl, rfl, fun b hb hne => ?_⟩
  have hlen : 0 < w.lengthOr0 path := by
    rw [World.lengthOr0_of_file hb]
    exact List.length_pos_of_ne_nil hne
  dsimp only
  rw [if_pos hlen, World.lengthOr0_of_file hb]
  exact ⟨rfl, rfl⟩

/-! ## Recorded choices -/

section Recorded

variable (setup : Setup) (net : Network σ) (now : Moment)

theorem probeOnce_of_recorded (source : Source) {e : Entry} {info : ProbeInfo}
    (h : e.probe = some info) (w : World σ) : probeOnce net source e w = (e, w, info) := by
  unfold probeOnce
  rw [h]

theorem placeOnce_of_recorded (info : ProbeInfo) {e : Entry} {path : String}
    (h : e.task.filePath = some path) (w : World σ) :
    placeOnce setup now info e w = .ok (e, w, path) := by
  unfold placeOnce
  rw [h]

theorem modeOnce_of_recorded (info : ProbeInfo) (transport : Transport) (path : String)
    {e : Entry} {m : Mode} (h : e.mode = some m) (w : World σ) :
    modeOnce setup now info transport path e w = (e, m) := by
  unfold modeOnce
  rw [h]

/-- A run from recorded choices under a stop signal stops at once, changing nothing. -/
theorem drive_of_recorded_some {e : Entry} {info : ProbeInfo} {path : String} {m : Mode}
    (hrec : e.Recorded info path m) {source : Source} (hsrc : Source.parse e.task.url = .ok source)
    (s : Signal) (w : World σ) :
    drive setup net now (some s) e w = (e, w, .ofSignal s) := by
  unfold drive driveFrom
  rw [hsrc]
  dsimp only
  rw [probeOnce_of_recorded net source hrec.1 w]

/-- A run from recorded choices under no signal probes nothing, resolves nothing and chooses
nothing: it completes a single stream that already holds the known total, and otherwise runs the
transfer in the recorded mode, to the recorded destination. -/
theorem drive_of_recorded_none {e : Entry} {info : ProbeInfo} {path : String} {m : Mode}
    (hrec : e.Recorded info path m) {source : Source} (hsrc : Source.parse e.task.url = .ok source)
    (w : World σ) :
    drive setup net now none e w =
      if e.task.totalSize > 0 ∧ e.task.downloadedSize ≥ e.task.totalSize ∧ m = .single then
        (e, w, .completed e.task.downloadedSize)
      else launch setup net now source none m path e w := by
  obtain ⟨hp, hf, hm⟩ := hrec
  unfold drive driveFrom
  rw [hsrc]
  dsimp only
  rw [probeOnce_of_recorded net source hp w]
  dsimp only
  rw [placeOnce_of_recorded setup now info hf w]
  dsimp only
  rw [modeOnce_of_recorded setup now info source.transport path hm w]

end Recorded

/-! ## What runs keep -/

theorem probeOnce_fst (net : Network σ) (source : Source) (e : Entry) (w : World σ) :
    (probeOnce net source e w).1.probe = some (probeOnce net source e w).2.2 ∧
      (probeOnce net source e w).1.task.url = e.task.url ∧
      (probeOnce net source e w).1.task.filePath = e.task.filePath ∧
      (probeOnce net source e w).1.mode = e.mode := by
  unfold probeOnce
  split
  · next info hp => exact ⟨hp, rfl, rfl, rfl⟩
  · -- whatever the probe answers is recorded
    generalize ProbeInfo.ask net w.servers source.address.text = answer
    obtain ⟨servers, info⟩ := answer
    exact ⟨rfl, rfl, rfl, rfl⟩

theorem placeOnce_fst {setup : Setup} {now : Moment} {info : ProbeInfo} {e e' : Entry}
    {w w' : World σ} {path : String} (h : placeOnce setup now info e w = .ok (e', w', path)) :
    e'.probe = e.probe ∧ e'.task.url = e.task.url ∧ e'.task.filePath = some path ∧
      e'.mode = e.mode := by
  unfold placeOnce at h
  split at h
  · next path' hp =>
    cases h
    exact ⟨rfl, rfl, hp, rfl⟩
  · obtain ⟨name, rfl⟩ := resolveDestination_entry h
    exact ⟨rfl, rfl, rfl, rfl⟩

theorem modeOnce_fst (setup : Setup) (now : Moment) (info : ProbeInfo) (transport : Transport)
    (path : String) (e : Entry) (w : World σ) :
    (modeOnce setup now info transport path e w).1.probe = e.probe ∧
      (modeOnce setup now info transport path e w).1.task.url = e.task.url ∧
      (modeOnce setup now info transport path e w).1.task.filePath = e.task.filePath ∧
      (modeOnce setup now info transport path e w).1.mode =
        some (modeOnce setup now info transport path e w).2 := by
  unfold modeOnce
  split
  · next m hm => exact ⟨rfl, rfl, rfl, hm⟩
  · dsimp only
    split <;> exact ⟨rfl, rfl, rfl, rfl⟩

theorem takeReports_filePath (now : Moment) (e : Entry) (w : World σ) :
    (takeReports now e w).1.task.filePath = e.task.filePath := by
  unfold takeReports
  dsimp only
  induction w.reports generalizing e with
  | nil => rfl
  | cons r rest ih => simpa using ih (e.recordProgress r.1 r.2 now)

theorem launch_filePath (setup : Setup) (net : Network σ) (now : Moment) (source : Source)
    (signal : Option Signal) (mode : Mode) (path : String) (e : Entry) (w : World σ) :
    (launch setup net now source signal mode path e w).1.task.filePath = e.task.filePath := by
  have hkeep := Entry.transition_filePath e .downloading
  unfold launch
  generalize e.transition .downloading = moved at hkeep
  obtain ⟨started, e'⟩ := moved
  cases started with
  | false => exact hkeep
  | true =>
    rw [← hkeep]
    exact takeReports_filePath now (e'.restartSampling now) _

theorem settleRun_filePath (signal : Option Signal) (outcome : Finish) (e : Entry) (w : World σ) :
    (settleRun signal outcome e w).1.task.filePath = e.task.filePath := by
  rcases settleRun_cases signal outcome e w with
    ⟨_, _, _, h⟩ | ⟨_, h⟩ | ⟨_, h⟩ | ⟨_, _, _, h⟩ <;> simp [h]

/-- A run keeps the destination it finds. -/
theorem runTask_filePath (setup : Setup) (net : Network σ) (now : Moment) (signal : Option Signal)
    {e : Entry} {path : String} (h : e.task.filePath = some path) (w : World σ) :
    (runTask setup net now signal e w).1.task.filePath = some path := by
  unfold runTask
  rw [settleRun_filePath]
  unfold drive driveFrom
  split
  · exact h
  · next source _ =>
    obtain ⟨-, -, hprobed, -⟩ := probeOnce_fst net source e w
    generalize probeOnce net source e w = probed at hprobed
    obtain ⟨e₁, w₁, info⟩ := probed
    dsimp only at hprobed ⊢
    rw [h] at hprobed
    split
    · exact hprobed
    · rw [placeOnce_of_recorded setup now info hprobed w₁]
      dsimp only
      obtain ⟨-, -, hmoded, -⟩ := modeOnce_fst setup now info source.transport path e₁ w₁
      generalize modeOnce setup now info source.transport path e₁ w₁ = moded at hmoded
      obtain ⟨e₃, mode⟩ := moded
      dsimp only at hmoded ⊢
      split
      · rwa [hmoded]
      · rw [launch_filePath, hmoded, hprobed]

/-- Every update, of the engine or of a run, keeps a recorded probe and a chosen mode, and keeps
the destination unless it records one. -/
theorem Change.keeps_recorded {e e' : Entry} (hc : Change e e') :
    (∀ info, e.probe = some info → e'.probe = some info) ∧
      (∀ m, e.mode = some m → e'.mode = some m) ∧
      (e'.task.filePath = e.task.filePath ∨ ∃ name path, e' = e.setDestination name path) := by
  cases hc with
  | transition next _ => exact ⟨by simp, by simp, .inl (by simp)⟩
  | setProbe info hp => exact ⟨by simp [hp], fun _ h => h, .inl rfl⟩
  | setDestination name path => exact ⟨fun _ h => h, fun _ h => h, .inr ⟨name, path, rfl⟩⟩
  | seedDownloaded bytes now _ => exact ⟨fun _ h => h, fun _ h => h, .inl rfl⟩
  | chooseMode mode hm _ => exact ⟨fun _ h => h, by simp [hm], .inl rfl⟩
  | restartSampling now => exact ⟨fun _ h => h, fun _ h => h, .inl rfl⟩
  | recordProgress downloaded total now => exact ⟨by simp, by simp, .inl (by simp)⟩
  | completeLocked bytes _ => exact ⟨by simp, by simp, .inl (by simp)⟩
  | failLocked message => exact ⟨by simp, by simp, .inl (by simp)⟩
  | retoken token => exact ⟨fun _ h => h, fun _ h => h, .inl rfl⟩
  | rehandle worker => exact ⟨fun _ h => h, fun _ h => h, .inl rfl⟩
  | collect => exact ⟨fun _ h => h, fun _ h => h, .inl rfl⟩

/-- Any sequence of updates keeps a recorded probe and a chosen mode. -/
theorem keeps_recorded_of_changes {e e' : Entry} (h : ReflTransGen Change e e') :
    (∀ info, e.probe = some info → e'.probe = some info) ∧
      (∀ m, e.mode = some m → e'.mode = some m) := by
  induction h with
  | refl => exact ⟨fun _ h => h, fun _ h => h⟩
  | tail _ hc ih =>
    obtain ⟨hp, hm, -⟩ := hc.keeps_recorded
    exact ⟨fun info h => hp info (ih.1 info h), fun m h => hm m (ih.2 m h)⟩

/-- A run keeps what is recorded. -/
theorem runTask_recorded (setup : Setup) (net : Network σ) (now : Moment) (signal : Option Signal)
    {e : Entry} {info : ProbeInfo} {path : String} {m : Mode} (hrec : e.Recorded info path m)
    (w : World σ) : (runTask setup net now signal e w).1.Recorded info path m := by
  have hkept := keeps_recorded_of_changes (runTask_changes setup net now signal e w)
  exact ⟨hkept.1 info hrec.1, runTask_filePath setup net now signal hrec.2.1 w, hkept.2 m hrec.2.2⟩

/-- A run that has placed its destination records its choices, and goes on exactly as a run
from the entry that records them would. -/
theorem runTask_eq_of_placed (setup : Setup) (net : Network σ) (now : Moment) {source : Source}
    {e e₂ : Entry} {w w₂ : World σ} {path : String} (hsrc : Source.parse e.task.url = .ok source)
    (hplace : placeOnce setup now (probeOnce net source e w).2.2 (probeOnce net source e w).1
      (probeOnce net source e w).2.1 = .ok (e₂, w₂, path)) :
    (modeOnce setup now (probeOnce net source e w).2.2 source.transport path e₂ w₂).1.Recorded
        (probeOnce net source e w).2.2 path
        (modeOnce setup now (probeOnce net source e w).2.2 source.transport path e₂ w₂).2 ∧
      runTask setup net now none e w =
        runTask setup net now none
          (modeOnce setup now (probeOnce net source e w).2.2 source.transport path e₂ w₂).1 w₂ := by
  obtain ⟨hprobe, hurl₁, -, -⟩ := probeOnce_fst net source e w
  obtain ⟨hprobe₂, hurl₂, hpath₂, -⟩ := placeOnce_fst hplace
  obtain ⟨hprobe₃, hurl₃, hpath₃, hmode₃⟩ :=
    modeOnce_fst setup now (probeOnce net source e w).2.2 source.transport path e₂ w₂
  have hrec : (modeOnce setup now (probeOnce net source e w).2.2 source.transport path e₂ w₂).1.Recorded
      (probeOnce net source e w).2.2 path
      (modeOnce setup now (probeOnce net source e w).2.2 source.transport path e₂ w₂).2 :=
    ⟨by rw [hprobe₃, hprobe₂, hprobe], by rw [hpath₃, hpath₂], hmode₃⟩
  refine ⟨hrec, ?_⟩
  have hsrc₃ : Source.parse
      (modeOnce setup now (probeOnce net source e w).2.2 source.transport path e₂ w₂).1.task.url =
        .ok source := by rw [hurl₃, hurl₂, hurl₁, hsrc]
  -- both runs reach the same choices with the same world, then go on alike
  unfold runTask
  rw [drive_of_recorded_none setup net now hrec hsrc₃ w₂]
  unfold drive driveFrom
  rw [hsrc]
  dsimp only
  generalize probeOnce net source e w = probed at hplace ⊢
  obtain ⟨e₁, w₁, info⟩ := probed
  dsimp only at hplace ⊢
  rw [hplace]

/-! ## A single stream that already holds the total -/

/-- A single stream whose recorded choices are in place and whose bytes already reach the known
total completes without a request, leaving the world as it was, with the bytes on disk as both
the bytes downloaded and the total. A stop signal raised before the run wins: a cancel cancels
the task and a pause pauses it. -/
theorem runTask_of_held_total (setup : Setup) (net : Network σ) (now : Moment) {e : Entry}
    {info : ProbeInfo} {path : String} (hrec : e.Recorded info path .single) {source : Source}
    (hsrc : Source.parse e.task.url = .ok source) (hlive : e.task.status.Live)
    (hpos : 0 < e.task.totalSize) (hheld : e.task.totalSize ≤ e.task.downloadedSize)
    (w : World σ) :
    (runTask setup net now none e w).2 = w ∧
      (runTask setup net now none e w).1.task.status = .completed ∧
      (runTask setup net now none e w).1.task.downloadedSize = e.task.downloadedSize ∧
      (runTask setup net now none e w).1.task.totalSize = e.task.downloadedSize ∧
      (runTask setup net now (some .cancel) e w).1.task.status = .cancelled ∧
      (runTask setup net now (some .pause) e w).1.task.status = .paused := by
  have hcheck : e.task.totalSize > 0 ∧ e.task.downloadedSize ≥ e.task.totalSize ∧
      Mode.single = .single := ⟨hpos, hheld, rfl⟩
  have hdone : runTask setup net now none e w = ((e.complete e.task.downloadedSize).2, w) := by
    unfold runTask
    rw [drive_of_recorded_none setup net now hrec hsrc w, if_pos hcheck]
    rfl
  -- the completion works on the started task, which has the same bytes and total
  have hstarted := Entry.started_status hlive
  have hsizes : e.started.task.downloadedSize = e.task.downloadedSize ∧
      e.started.task.totalSize = e.task.totalSize := by
    unfold Entry.started
    split <;> simp
  obtain ⟨hst, hd, ht⟩ := Task.markCompleted_setSizes hstarted e.task.downloadedSize
    e.started.task.totalSize (by rw [hsizes.2]; exact hpos) (by rw [hsizes.2]; exact hheld)
  have htask := Entry.complete_task e e.task.downloadedSize
  rw [if_pos hstarted] at htask
  have hnotc : e.task.status ≠ .completed := by
    rcases hlive with h | h <;> rw [h] <;> decide
  have hnote : e.task.status ≠ .error := by
    rcases hlive with h | h <;> rw [h] <;> decide
  have hnotx : e.task.status ≠ .cancelled := by
    rcases hlive with h | h <;> rw [h] <;> decide
  refine ⟨by rw [hdone], ?_, ?_, ?_, ?_, ?_⟩
  · rw [hdone]; dsimp only; rw [htask]; exact hst
  · rw [hdone]; dsimp only; rw [htask]; exact hd
  · rw [hdone]; dsimp only; rw [htask]; exact ht
  · unfold runTask
    rw [drive_of_recorded_some setup net now hrec hsrc .cancel w]
    simp only [settleRun, Finish.under, Finish.ofSignal, hrec.2.1]
    rw [Entry.settle_status (Or.inr rfl) hnotc hnote, if_neg hnotx]
  · unfold runTask
    rw [drive_of_recorded_some setup net now hrec hsrc .pause w]
    simp only [settleRun, Finish.under, Finish.ofSignal]
    rw [Entry.settle_status (Or.inl rfl) hnotc hnote, if_neg hnotx]

/-! ## The choice made once -/

/-- The transfer mode is chosen once, as specified.

* A run with no mode yet chooses parallel chunks, planned from the probe's length, exactly when
  the caller asked for them, the address is HTTP, the server takes ranged requests, the length
  is known and nothing, or an empty file, stands at the destination; the plan then has chunks.
  Otherwise it chooses a single stream, and bytes on disk count as downloaded, the known total
  growing to them. The choice is recorded.
* A run that has placed its destination records the probe, the destination and the mode, and
  goes on exactly as a run from what it recorded.
* A run from recorded choices reads them back, probing nothing, resolving nothing, planning
  nothing and changing nothing on the way, and keeps them.
* No update of the engine or of a run replaces a recorded probe or mode, and only recording a
  destination changes it.
* A single stream whose bytes already reach the known total completes at once, leaving the
  world as it was, with those bytes as both counts; a stop signal raised before the run wins. -/
theorem transfer_mode_chosen_once (setup : Setup) (net : Network σ) (now : Moment) :
    (∀ (info : ProbeInfo) (transport : Transport) (path : String) (e : Entry) (w : World σ),
      e.mode = none →
      (modeOnce setup now info transport path e w).1.mode =
          some (modeOnce setup now info transport path e w).2 ∧
        ((modeOnce setup now info transport path e w).2 =
            .parallel (Chunk.plan info.contentLength setup.config.defaultConcurrency
              setup.config.minChunkBytes setup.cpus) ↔
          e.task.concurrent = true ∧ transport = .http ∧ info.supportsResume = true ∧
            0 < info.contentLength ∧
            (w.files.at? path = none ∨ w.files.at? path = some (.file []))) ∧
        ((modeOnce setup now info transport path e w).2 = .single ∨
          (Chunk.plan info.contentLength setup.config.defaultConcurrency
            setup.config.minChunkBytes setup.cpus).chunks ≠ []) ∧
        ∀ b, w.files.at? path = some (.file b) → b ≠ [] →
          (modeOnce setup now info transport path e w).2 = .single ∧
          (modeOnce setup now info transport path e w).1.task.downloadedSize = b.length ∧
          (modeOnce setup now info transport path e w).1.task.totalSize =
            (if 0 < e.task.totalSize then max e.task.totalSize b.length else 0)) ∧
    (∀ (source : Source) (e e₂ : Entry) (w w₂ : World σ) (path : String),
      Source.parse e.task.url = .ok source →
      placeOnce setup now (probeOnce net source e w).2.2 (probeOnce net source e w).1
        (probeOnce net source e w).2.1 = .ok (e₂, w₂, path) →
      (modeOnce setup now (probeOnce net source e w).2.2 source.transport path e₂ w₂).1.Recorded
          (probeOnce net source e w).2.2 path
          (modeOnce setup now (probeOnce net source e w).2.2 source.transport path e₂ w₂).2 ∧
        runTask setup net now none e w =
          runTask setup net now none
            (modeOnce setup now (probeOnce net source e w).2.2 source.transport path e₂ w₂).1
            w₂) ∧
    (∀ (source : Source) (e : Entry) (w : World σ) (info : ProbeInfo) (path : String) (m : Mode)
      (signal : Option Signal), e.Recorded info path m →
      probeOnce net source e w = (e, w, info) ∧ placeOnce setup now info e w = .ok (e, w, path) ∧
        modeOnce setup now info source.transport path e w = (e, m) ∧
        (runTask setup net now signal e w).1.Recorded info path m) ∧
    (∀ e e' : Entry, Change e e' →
      (∀ info, e.probe = some info → e'.probe = some info) ∧
        (∀ m, e.mode = some m → e'.mode = some m) ∧
        (e'.task.filePath = e.task.filePath ∨ ∃ name path, e' = e.setDestination name path)) ∧
    (∀ (source : Source) (e : Entry) (w : World σ) (info : ProbeInfo) (path : String),
      Source.parse e.task.url = .ok source → e.Recorded info path .single → e.task.status.Live →
      0 < e.task.totalSize → e.task.totalSize ≤ e.task.downloadedSize →
      (runTask setup net now none e w).2 = w ∧
        (runTask setup net now none e w).1.task.status = .completed ∧
        (runTask setup net now none e w).1.task.downloadedSize = e.task.downloadedSize ∧
        (runTask setup net now none e w).1.task.totalSize = e.task.downloadedSize ∧
        (runTask setup net now (some .cancel) e w).1.task.status = .cancelled ∧
        (runTask setup net now (some .pause) e w).1.task.status = .paused) := by
  refine ⟨?first, ?placed, ?later, fun _ _ hc => hc.keeps_recorded, ?held⟩
  case first =>
    intro info transport path e w he
    obtain ⟨hrec, hmode, hseed⟩ := modeOnce_of_none setup now info transport path he w
    have hdisk := World.lengthOr0_eq_zero_iff w path
    refine ⟨hrec, ?_, ?_, fun b hb hne => ?_⟩
    · -- the rule, with "nothing on disk" read off the length
      rw [hmode, chooseMode_eq, ← hdisk]
      split
      · next hc => exact iff_of_true rfl hc
      · next hc => exact iff_of_false (by simp) hc
    · rw [hmode, chooseMode_eq]
      split
      · next hc =>
        have hcount := Chunk.length_plan_chunks setup.config.defaultConcurrency
          setup.config.minChunkBytes setup.cpus hc.2.2.2.1
        have hpos := Chunk.chunkCount_pos info.contentLength setup.config.defaultConcurrency
          setup.config.minChunkBytes
        exact .inr (List.ne_nil_of_length_pos (by omega))
      · exact .inl rfl
    · -- bytes on disk send the run to one stream and count as downloaded
      have hlen : w.lengthOr0 path ≠ 0 := by
        rw [World.lengthOr0_of_file hb]
        exact Nat.pos_iff_ne_zero.1 (List.length_pos_of_ne_nil hne)
      obtain ⟨hd, ht⟩ := hseed b hb hne
      refine ⟨?_, hd, ht⟩
      rw [hmode, chooseMode_eq, if_neg (fun hc => hlen hc.2.2.2.2)]
  case placed =>
    intro source e e₂ w w₂ path hsrc hplace
    exact runTask_eq_of_placed setup net now hsrc hplace
  case later =>
    intro source e w info path m signal hrec
    exact ⟨probeOnce_of_recorded net source hrec.1 w, placeOnce_of_recorded setup now info hrec.2.1 w,
      modeOnce_of_recorded setup now info source.transport path hrec.2.2 w,
      runTask_recorded setup net now signal hrec w⟩
  case held =>
    intro source e w info path hsrc hrec hlive hpos hheld
    exact runTask_of_held_total setup net now hrec hsrc hlive hpos hheld w

/-- A single stream that already holds its known total does not complete whenever no cancel was
raised: under a pause raised before its run, this task, preparing with five of five bytes and
its choices recorded, ends its run paused once its address is read. -/
theorem early_pause_leaves_held_stream_paused :
    let e : Entry := ⟨{ Task.new "t1" "http://h/x.bin" "p1" "/" none false 0 with
        filePath := some "/x.bin", downloadedSize := 5, totalSize := 5 }, some ⟨true, 5, "", none⟩,
      some .single, Tracker.start (Duration.ofSecs 1) 0 0, .root 0, [], none⟩
    let source : Source := ⟨⟨"http", none, .segments ["x.bin"], none, none⟩, .http⟩
    let run := driveFrom ⟨Config.default, Retry.Policy.default, 1⟩ Network.refusing 0
      (some .pause) source e ⟨FileTree.empty, (), []⟩
    e.Recorded ⟨true, 5, "", none⟩ "/x.bin" .single ∧ e.task.status.Live ∧
      0 < e.task.totalSize ∧ e.task.totalSize ≤ e.task.downloadedSize ∧
      (settleRun (some .pause) run.2.2 run.1 run.2.1).1.task.status = .paused :=
  ⟨⟨rfl, rfl, rfl⟩, .inl rfl, by decide, by decide, by decide⟩

end Controller

end DownloadEngine
