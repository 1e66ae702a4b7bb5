import DownloadEngine.Proofs.EngineLifecycle

/-!
# Runs that no signal reaches

A transfer stops for a pause or a cancel only when one is raised. Under no signal a sink never
refuses a piece for a signal, so an attempt's failure is never an interruption, and the retry
loop, which otherwise interrupts only when a signal is seen while backing off, passes that on. A
parallel download ends by a signal only under one. So a run started with no signal raised never
settles its task as paused: from `downloading` it ends completed, failed or cancelled.

## Main statements

* `Retry.runOnFrom_ne_interrupted`: a loop whose attempts are never interrupted and that sees no
  signal is never interrupted.
* `transfer_ne_ofSignal`: a transfer under no signal never ends as a signal asks.
* `runTask_ne_paused`: a run of a downloading task under no signal never leaves it paused.
-/

namespace DownloadEngine

namespace Retry

/-- A loop that sees no signal while backing off, over attempts that are never interrupted, is
never interrupted. -/
theorem runOnFrom_ne_interrupted {σ α : Type} (p : Policy)
    {step : Nat → σ → σ × Except TransferFailure α}
    (hstep : ∀ attempt s sig, (step attempt s).2 ≠ .error (.interrupted sig))
    (attempt : Nat) (s : σ) (fuel : Nat) (sig : Signal) :
    (runOnFrom p (fun _ => none) step attempt s fuel).2.result ≠ .error (.interrupted sig) := by
  induction fuel generalizing attempt s with
  | zero => simpa [runOnFrom] using hstep attempt s sig
  | succ fuel ih =>
    unfold runOnFrom
    -- the attempt succeeds, fails for good, or fails and is retried with nothing seen
    split
    · simp
    · next s' sig' heq => exact absurd (congrArg Prod.snd heq) (hstep attempt s sig')
    · next s' e _ heq =>
      split
      · simpa [heq] using hstep attempt s sig
      · exact ih (attempt + 1) s'

end Retry

namespace Transfer

/-- An intake that no signal stopped. -/
def Intake.Unstopped (i : Intake) : Prop := ∀ s, i.refusal ≠ some (.stopped s)

theorem Sink.checkStatus_ne_stopped (k : Sink) (status : Option Nat) (s : Signal) :
    k.checkStatus status ≠ some (.stopped s) := by
  unfold Sink.checkStatus
  split
  · simp
  · split
    · simp
    · split <;> simp

/-- Under no signal a piece is refused, if at all, for a reason other than a signal. -/
theorem Sink.takePiece_unstopped {σ : Type} (k : Sink) (short : Option (Nat × IoError))
    (acc : World σ × Intake) (piece : List UInt8) (h : acc.2.Unstopped) :
    (k.takePiece none short acc piece).2.Unstopped := by
  obtain ⟨w, intake⟩ := acc
  intro s
  unfold Sink.takePiece
  dsimp only
  split
  · exact h s
  · split
    · next r hr =>
      have hne := k.checkStatus_ne_stopped intake.status s
      rw [hr] at hne
      simpa using hne
    · -- past the status check the piece meets the limit, the device and the word, none of
      -- them a signal
      repeat' split
      all_goals simp_all

theorem Sink.foldl_takePiece_unstopped {σ : Type} (k : Sink) (short : Option (Nat × IoError))
    (pieces : List (List UInt8)) (acc : World σ × Intake) (h : acc.2.Unstopped) :
    (pieces.foldl (k.takePiece none short) acc).2.Unstopped := by
  induction pieces generalizing acc with
  | nil => exact h
  | cons piece rest ih => exact ih _ (k.takePiece_unstopped short acc piece h)

theorem Sink.take_unstopped {σ : Type} (k : Sink) (pieceSize : Nat) (reply : Reply)
    (w : World σ) : (k.take none pieceSize reply w).2.Unstopped := by
  rw [Sink.take_eq]
  -- the intake starts with no refusal
  exact k.foldl_takePiece_unstopped none _ _ fun _ => by simp

theorem Intake.failure_ne_interrupted {i : Intake} (h : i.Unstopped) (code : Nat) (s : Signal) :
    i.failure code ≠ .interrupted s := by
  unfold Intake.failure
  split
  · next s' hr => exact absurd hr (h s')
  all_goals simp

theorem atOffset_ne_interrupted {f : TransferFailure} (h : ∀ s, f ≠ .interrupted s)
    (offset : Nat) (s : Signal) : atOffset f offset ≠ .interrupted s := by
  unfold atOffset
  split
  · split
    · simp
    · exact h s
  · split <;> simp
  · exact h s

theorem brokenOff_ne_interrupted {i : Intake} (h : i.Unstopped) (code offset : Nat)
    (s : Signal) : brokenOff i code offset ≠ .interrupted s := by
  unfold brokenOff
  refine atOffset_ne_interrupted (fun s' => ?_) offset s
  split
  · simp
  · exact i.failure_ne_interrupted h code s'

theorem StreamJob.check_ne_interrupted (job : StreamJob) (offset : Nat) (reply : Reply)
    (intake : Intake) (s : Signal) :
    job.check offset reply intake ≠ .error (.interrupted s) := by
  -- the check throws only resume, status and length failures
  unfold StreamJob.check
  simp only [bind, Except.bind, pure, Except.pure, throw, throwThe, MonadExceptOf.throw]
  repeat' split
  all_goals simp_all

/-- Under no signal an attempt of a stream is never interrupted. -/
theorem StreamJob.once_ne_interrupted {σ : Type} (net : Network σ) (job : StreamJob)
    (offset : Nat) (w : World σ) (s : Signal) :
    (job.once net none offset w).2 ≠ .error (.interrupted s) := by
  unfold StreamJob.once
  dsimp only
  split
  · simp
  · generalize ({ w with files := _ } : World σ).exchange net _ = exchanged
    obtain ⟨w', answer⟩ := exchanged
    dsimp only
    split
    · refine fun h => brokenOff_ne_interrupted ?_ _ _ s (Except.error.inj h)
      intro s'
      simp
    · unfold StreamJob.settle
      split
      · intro h
        exact brokenOff_ne_interrupted (Sink.take_unstopped _ _ _ _) _ _ s (Except.error.inj h)
      · exact job.check_ne_interrupted _ _ _ s

theorem Finish.eq_of_ofResult_eq_ofSignal {r : Except TransferFailure Nat} {s : Signal}
    (h : Finish.ofResult r = .ofSignal s) : r = .error (.interrupted s) := by
  cases r with
  | ok bytes => exact absurd h.symm (Finish.ofSignal_ne_completed s bytes)
  | error f =>
    cases f with
    | interrupted s' =>
      simp only [Finish.ofResult] at h
      cases s <;> cases s' <;> simp_all [Finish.ofSignal]
    | _ => cases s <;> simp [Finish.ofResult, Finish.ofSignal] at h

/-- Under no signal a single stream never ends as a signal asks. -/
theorem StreamJob.run_ne_ofSignal {σ : Type} (net : Network σ) (policy : Retry.Policy)
    (job : StreamJob) (w : World σ) (s : Signal) :
    (job.run net policy none w).2 ≠ .ofSignal s := by
  have hattempts : ∀ offset (w : World σ),
      (job.attempts net policy none offset w).2.result ≠ .error (.interrupted s) :=
    fun offset w => Retry.runOnFrom_ne_interrupted policy
      (fun _ _ sig => job.once_ne_interrupted net _ _ sig) 1 w policy.maxAttempts s
  unfold StreamJob.run
  dsimp only
  split
  · exact fun h => hattempts 0 _ (Finish.eq_of_ofResult_eq_ofSignal h)
  · exact fun h => hattempts job.offset w (Finish.eq_of_ofResult_eq_ofSignal h)

/-- Under no signal a drained pool ends the run only by failing it. -/
theorem ParallelJob.afterPool_none_eq_some {failures : List (Nat × TransferFailure)}
    {finish : Finish} (h : afterPool none failures = some finish) : ∃ e, finish = .failed e := by
  simp only [afterPool] at h
  by_cases hf : failures.isEmpty = true
  · simp [hf] at h
  · simp only [hf, if_false, Option.some.injEq, Bool.false_eq_true] at h
    exact ⟨_, h.symm⟩

/-- Under no signal a parallel download ends completed or failed. -/
theorem ParallelJob.run_ne_ofSignal {σ : Type} (net : Network σ) (policy : Retry.Policy)
    (job : ParallelJob) (w : World σ) (s : Signal) :
    (job.run net policy none w).2 ≠ .ofSignal s := by
  have hfailed : ∀ e, Finish.failed e ≠ .ofSignal s := fun e => by cases s <;> simp [Finish.ofSignal]
  unfold ParallelJob.run
  split
  · exact hfailed _
  · dsimp only
    split
    · next finish hf =>
      obtain ⟨e, rfl⟩ := afterPool_none_eq_some hf
      exact hfailed e
    · -- the merge completes or fails
      split
      · exact (Finish.ofSignal_ne_completed s _).symm
      · exact hfailed _

end Transfer

namespace Task

/-- A downloading task completes into `completed`. -/
theorem markCompleted_status {t : Task} (h : t.status = .downloading) :
    t.markCompleted.2.status = .completed := by
  have ht := transition_of_canTransitionTo
    (show t.status.canTransitionTo .completed = true by simp [h, Status.canTransitionTo])
  rw [markCompleted_eq, if_pos ht.1]
  exact ht.2

/-- A downloading task fails into `error`. -/
theorem markFailed_status {t : Task} (h : t.status = .downloading) (message : String) :
    (t.markFailed message).2.status = .error := by
  have ht := transition_of_canTransitionTo
    (show t.status.canTransitionTo .error = true by simp [h, Status.canTransitionTo])
  rw [markFailed_eq, if_pos ht.1]
  exact ht.2

end Task

namespace Controller

open Transfer

variable {σ : Type} {setup : Setup} {net : Network σ} {now : Moment}

theorem transfer_ne_ofSignal (source : Source) (mode : Mode) (path : String) (e : Entry)
    (w : World σ) (s : Signal) : (transfer setup net source none mode path e w).2 ≠ .ofSignal s := by
  cases mode with
  | parallel plan => exact ParallelJob.run_ne_ofSignal net setup.policy _ w s
  | single => exact StreamJob.run_ne_ofSignal net setup.policy _ w s

/-! ## The status through a run -/

theorem probeOnce_status (source : Source) (e : Entry) (w : World σ) :
    (probeOnce net source e w).1.task.status = e.task.status := by
  unfold probeOnce
  split
  · rfl
  · -- whatever the probe answers, recording it keeps the status
    generalize ProbeInfo.ask net w.servers source.address.text = answer
    obtain ⟨servers, info⟩ := answer
    rfl

theorem placeOnce_status {info : ProbeInfo} {e e' : Entry} {w w' : World σ} {path : String}
    (h : placeOnce setup now info e w = .ok (e', w', path)) : e'.task.status = e.task.status := by
  unfold placeOnce at h
  split at h
  · cases h
    rfl
  · obtain ⟨name, rfl⟩ := resolveDestination_entry h
    rfl

theorem modeOnce_status (info : ProbeInfo) (transport : Transport) (path : String) (e : Entry)
    (w : World σ) : (modeOnce setup now info transport path e w).1.task.status = e.task.status := by
  unfold modeOnce
  split
  · rfl
  · dsimp only
    split <;> rfl

theorem takeReports_status (e : Entry) (w : World σ) :
    (takeReports now e w).1.task.status = e.task.status := by
  unfold takeReports
  dsimp only
  induction w.reports generalizing e with
  | nil => rfl
  | cons r rest ih => simpa using ih (e.recordProgress r.1 r.2 now)

/-- A downloading task stays downloading until its run settles it. -/
theorem launch_status (source : Source) (signal : Option Signal) (mode : Mode) (path : String)
    {e : Entry} (hd : e.task.status = .downloading) (w : World σ) :
    (launch setup net now source signal mode path e w).1.task.status = .downloading := by
  have hstay : e.transition .downloading = (true, e) := by simp [Entry.transition, hd]
  unfold launch
  rw [hstay]
  dsimp only
  rw [takeReports_status]
  exact hd

theorem launch_ne_paused (source : Source) (mode : Mode) (path : String) (e : Entry)
    (w : World σ) : (launch setup net now source none mode path e w).2.2 ≠ .paused := by
  unfold launch
  split
  · simp
  · next e' _ =>
    dsimp only
    have h : (transfer setup net source none mode path (e'.restartSampling now) w).2 ≠
        .ofSignal .pause := transfer_ne_ofSignal source mode path _ w .pause
    generalize transfer setup net source none mode path (e'.restartSampling now) w = moved at h
    obtain ⟨w', finish⟩ := moved
    exact h

/-- A run of a downloading task is still downloading when its outcome is known. -/
theorem drive_status {signal : Option Signal} {e : Entry} (hd : e.task.status = .downloading)
    (w : World σ) : (drive setup net now signal e w).1.task.status = .downloading := by
  unfold drive driveFrom
  split
  · exact hd
  · next source _ =>
    have hprobe : (probeOnce net source e w).1.task.status = e.task.status :=
      probeOnce_status source e w
    generalize probeOnce net source e w = probed at hprobe
    obtain ⟨e₁, w₁, info⟩ := probed
    dsimp only at hprobe ⊢
    rw [← hprobe] at hd
    split
    · exact hd
    · split
      · exact hd
      · next e₂ w₂ path hplace =>
        have hmoded : (modeOnce setup now info source.transport path e₂ w₂).1.task.status =
            e₂.task.status := modeOnce_status info source.transport path e₂ w₂
        generalize modeOnce setup now info source.transport path e₂ w₂ = moded at hmoded
        obtain ⟨e₃, mode⟩ := moded
        dsimp only at hmoded ⊢
        -- the probe, the destination and the mode all leave the status alone
        have h₃ : e₃.task.status = .downloading := by rw [hmoded, placeOnce_status hplace, hd]
        split
        · exact h₃
        · exact launch_status source _ mode path h₃ w₂

/-- Under no signal a run's outcome is never a pause. -/
theorem drive_ne_paused (e : Entry) (w : World σ) :
    (drive setup net now none e w).2.2 ≠ .paused := by
  unfold drive driveFrom
  split
  · simp
  · next source _ =>
    generalize probeOnce net source e w = probed
    obtain ⟨e₁, w₁, info⟩ := probed
    dsimp only
    split
    · simp
    · next e₂ w₂ path _ =>
      generalize modeOnce setup now info source.transport path e₂ w₂ = moded
      obtain ⟨e₃, mode⟩ := moded
      dsimp only
      split
      · simp
      · exact launch_ne_paused source mode path e₃ w₂

/-- Settling a downloading task under no signal by an outcome other than a pause never leaves
it paused. -/
theorem settleRun_ne_paused {outcome : Transfer.Finish} (ho : outcome ≠ .paused) {e : Entry}
    (hd : e.task.status = .downloading) (w : World σ) :
    (settleRun none outcome e w).1.task.status ≠ .paused := by
  have hne : e.task.status ≠ .preparing := by simp [hd]
  unfold settleRun
  cases outcome with
  | completed bytes =>
    -- a downloading task always completes
    dsimp only [Transfer.Finish.under]
    rw [Entry.complete_task, Entry.started_of_ne hne, if_pos hd,
      Task.markCompleted_status (by simpa using hd)]
    simp
  | paused => exact absurd rfl ho
  | cancelled =>
    have hcancel : (e.settle .cancelled).2.task.status = .cancelled := by
      simp only [Entry.settle, ne_eq, not_true_eq_false, and_false, if_false,
        Entry.transition_task]
      exact (Task.transition_of_canTransitionTo (by simp [hd, Status.canTransitionTo])).2
    dsimp only [Transfer.Finish.under]
    split <;> simp [hcancel]
  | failed err =>
    dsimp only [Transfer.Finish.under]
    rw [Entry.fail_task, Entry.started_of_ne hne, Task.markFailed_status hd]
    simp

/-- A run of a downloading task that no signal reaches never leaves it paused. -/
theorem runTask_ne_paused {e : Entry} (hd : e.task.status = .downloading) (w : World σ) :
    (runTask setup net now none e w).1.task.status ≠ .paused := by
  have hstatus : (drive setup net now none e w).1.task.status = .downloading := drive_status hd w
  have houtcome : (drive setup net now none e w).2.2 ≠ .paused := drive_ne_paused e w
  unfold runTask
  generalize drive setup net now none e w = driven at hstatus houtcome
  obtain ⟨e', w', outcome⟩ := driven
  exact settleRun_ne_paused houtcome hstatus w'

end Controller

end DownloadEngine
