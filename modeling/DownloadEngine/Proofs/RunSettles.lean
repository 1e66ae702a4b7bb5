import DownloadEngine.Proofs.Registry

/-!
# Runs settle their task

A run ends by settling its task with one update chosen by the run's outcome and the signal
read at the end: a completion, a pause, a cancel or a failure. A raised signal turns a failure
into what it asks, a cancel turns a completion into a cancel, and nothing else changes the
outcome (`settleRun_cases`). Each update lands a task that is preparing or downloading on its
status; a paused or cancelled task, which the engine may have moved while the run went on,
keeps its status or is cancelled. So whatever the outcome and the signal, the task ends paused,
completed, failed or cancelled; it completes only when no cancel was read, it fails only when
no signal was, and then with the failure's text; and a completed transfer never pauses it.

## Main statements

* `settleRun_cases`: the update a settling makes, by outcome and signal.
* `run_settles`: a settled task is never preparing or downloading, and stop requests win as
  the run reads them.
-/

namespace DownloadEngine

/-- A status a run can still move on from: preparing or downloading. -/
def Status.Live (s : Status) : Prop := s = .preparing ∨ s = .downloading

namespace Controller

namespace Entry

/-! ## What each settling update does to the status -/

theorem complete_status_of_live {e : Entry} (h : e.task.status.Live) (bytes : Nat) :
    (e.complete bytes).2.task.status = .completed := by
  have hd := started_status h
  rw [complete_task, if_pos hd]
  exact Task.markCompleted_status (by simpa using hd)

theorem complete_task_of_not_live {e : Entry} (h : ¬ e.task.status.Live) (bytes : Nat) :
    (e.complete bytes).2.task = e.task := by
  obtain ⟨hp, hd⟩ := not_or.mp h
  rw [complete_task, started_of_ne hp, if_neg hd]

theorem fail_of_live {e : Entry} (h : e.task.status.Live) (message : String) :
    (e.fail message).2.task.status = .error ∧ (e.fail message).2.task.errorMessage = some message := by
  have hd := started_status h
  rw [fail_task]
  exact ⟨Task.markFailed_status hd message, Task.markFailed_errorMessage hd message⟩

/-- A paused or cancelled task refuses a failure: no edge leads from either to `error`. -/
theorem fail_task_of_stopped {e : Entry} (h : e.task.status = .paused ∨ e.task.status = .cancelled)
    (message : String) : (e.fail message).2.task = e.task := by
  have hrefused : (e.fail message).1 = false := by
    rw [fail_fst, started_of_ne (by rcases h with h | h <;> simp [h]), Task.markFailed_eq]
    rcases h with h | h <;> simp [Task.transition, h, Status.canTransitionTo]
  rw [fail_false hrefused]

/-- Settling as paused or cancelled lands there, except that a cancelled task stays cancelled. -/
theorem settle_status {e : Entry} {next : Status} (hn : next = .paused ∨ next = .cancelled)
    (hc : e.task.status ≠ .completed) (he : e.task.status ≠ .error) :
    (e.settle next).2.task.status = if e.task.status = .cancelled then .cancelled else next := by
  unfold settle
  -- one case per status the task can have, with the edges of each
  rcases hn with rfl | rfl <;> cases hs : e.task.status <;>
    simp_all [Task.transition, Status.canTransitionTo]

end Entry

/-! ## The update a settling makes -/

variable {σ : Type}

/-- Settling a run makes one update: a completion when the run completed and no cancel was
read; a pause when the run paused, or failed under a pause; a cancel when the run was cancelled,
or did not pause and a cancel was read; a failure, with its text, when the run failed under no
signal. -/
theorem settleRun_cases (signal : Option Signal) (outcome : Transfer.Finish) (e : Entry)
    (w : World σ) :
    (∃ bytes, outcome = .completed bytes ∧ signal ≠ some .cancel ∧
      (settleRun signal outcome e w).1 = (e.complete bytes).2) ∨
    ((outcome = .paused ∨ (∃ err, outcome = .failed err) ∧ signal = some .pause) ∧
      (settleRun signal outcome e w).1 = (e.settle .paused).2) ∨
    ((outcome = .cancelled ∨ outcome ≠ .paused ∧ signal = some .cancel) ∧
      (settleRun signal outcome e w).1 = (e.settle .cancelled).2) ∨
    (∃ err, outcome = .failed err ∧ signal = none ∧
      (settleRun signal outcome e w).1 = (e.fail err.message).2) := by
  have hcancel : (settleRun signal .cancelled e w).1 = (e.settle .cancelled).2 := by
    unfold settleRun
    rcases signal with _ | ⟨_ | _⟩ <;> dsimp only [Transfer.Finish.under] <;> split <;> rfl
  cases outcome with
  | completed bytes =>
    rcases signal with _ | ⟨_ | _⟩
    · exact Or.inl ⟨bytes, rfl, by simp, rfl⟩
    · exact Or.inl ⟨bytes, rfl, by simp, rfl⟩
    · -- a cancel read at the end wins over the completion
      refine Or.inr (Or.inr (Or.inl ⟨Or.inr ⟨by simp, rfl⟩, ?_⟩))
      unfold settleRun
      dsimp only [Transfer.Finish.under]
      split <;> rfl
  | paused => exact Or.inr (Or.inl ⟨Or.inl rfl, by rcases signal with _ | ⟨_ | _⟩ <;> rfl⟩)
  | cancelled => exact Or.inr (Or.inr (Or.inl ⟨Or.inl rfl, hcancel⟩))
  | failed err =>
    rcases signal with _ | ⟨_ | _⟩
    · exact Or.inr (Or.inr (Or.inr ⟨err, rfl, rfl, rfl⟩))
    · exact Or.inr (Or.inl ⟨Or.inr ⟨⟨err, rfl⟩, rfl⟩, rfl⟩)
    · -- a cancel read at the end wins over the failure
      refine Or.inr (Or.inr (Or.inl ⟨Or.inr ⟨by simp, rfl⟩, ?_⟩))
      unfold settleRun
      dsimp only [Transfer.Finish.under, Transfer.Finish.ofSignal]
      split <;> rfl

/-! ## The status a settling leaves -/

/-- A task that is neither live, completed nor failed is paused or cancelled. -/
theorem stopped_of_not_live {s : Status} (hl : ¬ s.Live) (hc : s ≠ .completed) (he : s ≠ .error) :
    s = .paused ∨ s = .cancelled := by
  cases s <;> simp_all [Status.Live]

section Settle

variable (signal : Option Signal) (outcome : Transfer.Finish) {e : Entry} (w : World σ)

/-- The status a settling leaves on a task that is not yet completed or failed: a completion
completes a live task and leaves any other alone; a pause pauses or leaves it cancelled; a
cancel cancels it; a failure fails a live task, with its text, and leaves any other alone. -/
theorem settleRun_status (hc : e.task.status ≠ .completed) (he : e.task.status ≠ .error) :
    (∃ bytes, outcome = .completed bytes ∧ signal ≠ some .cancel ∧
      ((settleRun signal outcome e w).1.task.status = .completed ∨
        ¬ e.task.status.Live ∧ (settleRun signal outcome e w).1.task.status = e.task.status)) ∨
    ((outcome = .paused ∨ ∃ err, outcome = .failed err) ∧
      ((settleRun signal outcome e w).1.task.status = .paused ∨
        (settleRun signal outcome e w).1.task.status = .cancelled)) ∨
    (settleRun signal outcome e w).1.task.status = .cancelled ∨
    (∃ err, outcome = .failed err ∧ signal = none ∧
      ((settleRun signal outcome e w).1.task.status = .error ∧
          (settleRun signal outcome e w).1.task.errorMessage = some err.message ∨
        ¬ e.task.status.Live ∧ (settleRun signal outcome e w).1.task.status = e.task.status)) := by
  rcases settleRun_cases signal outcome e w with
    ⟨bytes, hout, hsig, heq⟩ | ⟨hcond, heq⟩ | ⟨-, heq⟩ | ⟨err, hout, hsig, heq⟩
  · -- a completion
    rw [heq]
    by_cases hl : e.task.status.Live
    · exact Or.inl ⟨bytes, hout, hsig, Or.inl (Entry.complete_status_of_live hl bytes)⟩
    · exact Or.inl ⟨bytes, hout, hsig, Or.inr ⟨hl, by rw [Entry.complete_task_of_not_live hl]⟩⟩
  · -- a pause
    have hpause := Entry.settle_status (Or.inl rfl) hc he
    refine Or.inr (Or.inl ⟨hcond.imp_right (·.1), ?_⟩)
    rw [heq, hpause]
    split <;> simp
  · -- a cancel
    have hcancel := Entry.settle_status (Or.inr rfl) hc he
    refine Or.inr (Or.inr (Or.inl ?_))
    rw [heq, hcancel]
    split <;> rfl
  · -- a failure
    rw [heq]
    by_cases hl : e.task.status.Live
    · exact Or.inr (Or.inr (Or.inr ⟨err, hout, hsig, Or.inl (Entry.fail_of_live hl err.message)⟩))
    · have hstopped := stopped_of_not_live hl hc he
      exact Or.inr (Or.inr (Or.inr ⟨err, hout, hsig,
        Or.inr ⟨hl, by rw [Entry.fail_task_of_stopped hstopped]⟩⟩))

variable {signal outcome w}

/-- A settled task is neither preparing nor downloading. -/
theorem settleRun_settled (hc : e.task.status ≠ .completed) (he : e.task.status ≠ .error) :
    (settleRun signal outcome e w).1.task.status ≠ .preparing ∧
      (settleRun signal outcome e w).1.task.status ≠ .downloading := by
  -- a task left alone was not live
  have hleft : ¬ e.task.status.Live → e.task.status ≠ .preparing ∧ e.task.status ≠ .downloading :=
    fun hl => not_or.mp hl
  rcases settleRun_status signal outcome w hc he with
    ⟨-, -, -, h | ⟨hl, h⟩⟩ | ⟨-, h | h⟩ | h | ⟨-, -, -, ⟨h, -⟩ | ⟨hl, h⟩⟩ <;>
    first | (rw [h]; exact hleft hl) | (rw [h]; decide)

/-- A task completes only when no cancel was read. -/
theorem ne_cancel_of_settleRun_completed (hc : e.task.status ≠ .completed)
    (he : e.task.status ≠ .error) (h : (settleRun signal outcome e w).1.task.status = .completed) :
    signal ≠ some .cancel := by
  rcases settleRun_status signal outcome w hc he with
    ⟨-, -, hsig, -⟩ | ⟨-, hs | hs⟩ | hs | ⟨-, -, rfl, ⟨hs, -⟩ | ⟨-, hs⟩⟩
  · exact hsig
  all_goals simp_all

/-- A task fails only when the run failed and no signal was read, and then with the failure's
text. -/
theorem failed_of_settleRun_error (hc : e.task.status ≠ .completed) (he : e.task.status ≠ .error)
    (h : (settleRun signal outcome e w).1.task.status = .error) :
    signal = none ∧ ∃ err, outcome = .failed err ∧
      (settleRun signal outcome e w).1.task.errorMessage = some err.message := by
  rcases settleRun_status signal outcome w hc he with
    ⟨-, -, -, hs | ⟨-, hs⟩⟩ | ⟨-, hs | hs⟩ | hs | ⟨err, hout, hsig, ⟨-, hmsg⟩ | ⟨-, hs⟩⟩
  -- only a failure of a live task lands on `error`
  case inr.inr.inr.inl => exact ⟨hsig, err, hout, hmsg⟩
  all_goals simp_all

/-- A completed transfer never pauses a task that was not already paused. -/
theorem paused_of_settleRun_completed (hc : e.task.status ≠ .completed)
    (he : e.task.status ≠ .error) {bytes : Nat} (hout : outcome = .completed bytes)
    (h : (settleRun signal outcome e w).1.task.status = .paused) : e.task.status = .paused := by
  rcases settleRun_status signal outcome w hc he with
    ⟨-, -, -, hs | ⟨-, hs⟩⟩ | ⟨hcond, -⟩ | hs | ⟨err, hfail, -⟩
  · simp_all
  · exact hs.symm.trans h
  · rcases hcond with hp | ⟨err, hf⟩ <;> simp_all
  · simp_all
  · simp_all

end Settle

/-! ## A run keeps its task live up to its outcome -/

variable {setup : Setup} {net : Network σ} {now : Moment}

theorem launch_live (source : Source) (signal : Option Signal) (mode : Mode) (path : String)
    {e : Entry} (hl : e.task.status.Live) (w : World σ) :
    (launch setup net now source signal mode path e w).1.task.status.Live := by
  -- from a live status the edge to `downloading` is always taken
  have hstart : (e.transition .downloading).1 = true ∧
      (e.transition .downloading).2.task.status = .downloading := by
    rcases hl with hp | hd
    · have hedge := Task.transition_of_canTransitionTo
        (show e.task.status.canTransitionTo .downloading = true by simp [hp, Status.canTransitionTo])
      exact ⟨by rw [Entry.transition_fst]; exact hedge.1, by rw [Entry.transition_task]; exact hedge.2⟩
    · exact ⟨by simp [Entry.transition, hd], by simp [Entry.transition, hd]⟩
  unfold launch
  generalize e.transition .downloading = moved at hstart
  obtain ⟨started, e'⟩ := moved
  obtain ⟨rfl, hdown⟩ := hstart
  dsimp only
  generalize transfer setup net source signal mode path (e'.restartSampling now) w = sent
  obtain ⟨w', finish⟩ := sent
  dsimp only
  rw [takeReports_status]
  exact Or.inr hdown

/-- A run of a live task hands a live task to its settling. -/
theorem drive_live {signal : Option Signal} {e : Entry} (hl : e.task.status.Live) (w : World σ) :
    (drive setup net now signal e w).1.task.status.Live := by
  unfold drive driveFrom
  split
  · exact hl
  · next source _ =>
    have hprobe : (probeOnce net source e w).1.task.status = e.task.status :=
      probeOnce_status source e w
    generalize probeOnce net source e w = probed at hprobe
    obtain ⟨e₁, w₁, info⟩ := probed
    dsimp only at hprobe ⊢
    rw [← hprobe] at hl
    split
    · exact hl
    · split
      · exact hl
      · next e₂ w₂ path hplace =>
        have hmoded : (modeOnce setup now info source.transport path e₂ w₂).1.task.status =
            e₂.task.status := modeOnce_status info source.transport path e₂ w₂
        generalize modeOnce setup now info source.transport path e₂ w₂ = moded at hmoded
        obtain ⟨e₃, mode⟩ := moded
        dsimp only at hmoded ⊢
        -- the probe, the destination and the mode leave the status alone
        have h₃ : e₃.task.status.Live := by rw [hmoded, placeOnce_status hplace]; exact hl
        split
        · exact h₃
        · exact launch_live source _ mode path h₃ w₂

/-- Whatever a run's outcome and whatever signal it reads at the end, settling a task that is
not yet completed or failed leaves it paused, completed, failed or cancelled, never preparing or
downloading. It is completed only if no cancel was read; it is failed only if the run failed and
no signal was read, and then its failure text is the error's text; a completed transfer never
pauses it. A whole run of a preparing or downloading task settles it. -/
theorem run_settles (signal : Option Signal) (outcome : Transfer.Finish) (e : Entry) (w : World σ)
    (hc : e.task.status ≠ .completed) (he : e.task.status ≠ .error) :
    let e' := (settleRun signal outcome e w).1
    (e'.task.status ≠ .preparing ∧ e'.task.status ≠ .downloading) ∧
    (e'.task.status = .completed → signal ≠ some .cancel) ∧
    (e'.task.status = .error →
      signal = none ∧ ∃ err, outcome = .failed err ∧ e'.task.errorMessage = some err.message) ∧
    (∀ bytes, outcome = .completed bytes → e'.task.status = .paused → e.task.status = .paused) ∧
    (e.task.status.Live →
      (runTask setup net now signal e w).1.task.status ≠ .preparing ∧
        (runTask setup net now signal e w).1.task.status ≠ .downloading) := by
  refine ⟨settleRun_settled hc he, ne_cancel_of_settleRun_completed hc he,
    failed_of_settleRun_error hc he, fun _ hout => paused_of_settleRun_completed hc he hout,
    fun hl => ?_⟩
  -- the run's own outcome is one of the outcomes settled above
  have hdrive := @drive_live σ setup net now signal e hl w
  unfold runTask
  generalize drive setup net now signal e w = driven at hdrive
  obtain ⟨e', w', outcome'⟩ := driven
  dsimp only at hdrive ⊢
  have hc' : e'.task.status ≠ .completed := by rcases hdrive with h | h <;> simp [h]
  have he' : e'.task.status ≠ .error := by rcases hdrive with h | h <;> simp [h]
  exact settleRun_settled hc' he'

/-- A download on a closed port whose transfer completed and whose run then read a pause: the
task completes. -/
theorem run_settles_pause_after_completion :
    let e : Entry := ⟨Task.new "t1" "http://127.0.0.1:9/a.bin" "p1" "/" none true 0, none, none,
      Tracker.start ⟨0⟩ 0 0, .root 0, [], none⟩
    let w : World Unit := ⟨FileTree.empty, (), []⟩
    let setup : Setup := ⟨Config.default, Retry.Policy.default, 1⟩
    e.task.status ≠ .completed ∧ e.task.status ≠ .error ∧
      let e' := (settleRun (some .pause) (.completed 12) e w).1
      (e'.task.status ≠ .preparing ∧ e'.task.status ≠ .downloading) ∧
      (e'.task.status = .completed → some Signal.pause ≠ some .cancel) ∧
      (e'.task.status = .error → some Signal.pause = none ∧
        ∃ err, Transfer.Finish.completed 12 = .failed err ∧ e'.task.errorMessage = some err.message) ∧
      (∀ bytes, Transfer.Finish.completed 12 = .completed bytes → e'.task.status = .paused →
        e.task.status = .paused) ∧
      (e.task.status.Live →
        (runTask setup Network.refusing 0 (some .pause) e w).1.task.status ≠ .preparing ∧
          (runTask setup Network.refusing 0 (some .pause) e w).1.task.status ≠ .downloading) :=
  ⟨by decide, by decide,
    @run_settles Unit ⟨Config.default, Retry.Policy.default, 1⟩ Network.refusing 0 (some .pause)
      (.completed 12) _ _ (by decide) (by decide)⟩

end Controller

end DownloadEngine
