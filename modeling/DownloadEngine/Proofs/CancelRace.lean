import DownloadEngine.Proofs.EntryChange
import DownloadEngine.Proofs.ModeChoice
import DownloadEngine.Proofs.TokenSignals

/-!
# A cancel racing a task's run

A cancel and the run it stops go on at the same time. The cancel takes the task out of the
registry, raises a cancel on the task's token, moves the task to `cancelled` where its edges
allow, reads the destination the task has resolved so far, and, if it read one, removes the
destination, its `.part` file and its chunk directory. The run meanwhile probes, resolves its
destination, transfers and merges, reading the token now and then. Once its transfer has
returned it reads the destination it knows and the signal, settles by the ending the signal
leaves (`Finish.under`), and removes the same three files if it settled as cancelled.

`Race` holds the two, the task's entry, whether the registry holds the task, the signal on
its token and which of its three files exist; `Race.Step` is one step of either, or a pause
asked for while the task is registered. A step of the run that updates the task is a `Change`
that keeps a resolved destination. A step that touches files may create, write, rename or
remove any of the three, once the destination is resolved: chunk threads, the merge and its
rename are such steps. A transfer returns `paused` only on reading a pause, after its last
write. Each removal of one file is a step of its own, so the other party may write between
two of them.

Nothing else reaches the task: no other task shares its destination, no second run is started
for it, and a removal takes the file or finds it missing.

## Main statements

* `Race.Step.safe`: one step keeps `Race.Safe`, whose heart is that every file that exists is
  one the cancel or the run is still bound to remove.
* `Race.cancel_leaves_nothing`: once both have ended, the task is out of the registry, none of
  its files exists, and it is cancelled or keeps the completed or failed status the cancel
  found.
-/

namespace DownloadEngine

namespace Transfer.Finish

/-- Under a cancel every ending but a pause is a cancel. -/
theorem under_cancel {outcome : Finish} (h : outcome ≠ .paused) :
    outcome.under (some .cancel) = .cancelled := by
  cases outcome <;> simp_all [under, ofSignal]

/-- An ending that a signal makes a cancel stays one when a further signal is raised. -/
theorem under_join {outcome : Finish} {a : Option Signal} (h : outcome.under a = .cancelled)
    (b : Option Signal) : outcome.under (Signal.join a b) = .cancelled := by
  cases outcome with
  | paused => simp [under] at h
  | cancelled => rfl
  | completed bytes =>
    -- only a cancel turns a completion into a cancel
    rcases a with _ | ⟨_ | _⟩ <;> simp [under] at h
    rw [Signal.join_cancel_left]
    rfl
  | failed err =>
    rcases a with _ | ⟨_ | _⟩ <;> simp [under, ofSignal] at h
    rw [Signal.join_cancel_left]
    rfl

end Transfer.Finish

/-- A status a cancel leaves: cancelled, or the completed or failed status it found. -/
def Status.AfterCancel (prior status : Status) : Prop :=
  status = .cancelled ∨ status = prior ∧ (prior = .completed ∨ prior = .error)

theorem Status.AfterCancel.isTerminal {prior status : Status} (h : prior.AfterCancel status) :
    status.isTerminal = true := by
  rcases h with rfl | ⟨rfl, rfl | rfl⟩ <;> rfl

namespace Controller

open Transfer

/-- The files a task keeps beside its destination: the destination itself, its `.part` file and
its chunk directory. -/
inductive TaskFile where
  | destination
  | part
  | chunks
  deriving DecidableEq, Repr

/-- The files a removal takes, in its order, once it has read the destination `path`: all three
when one is resolved, none otherwise. -/
def TaskFile.known : Option String → List TaskFile
  | some _ => [.destination, .part, .chunks]
  | none => []

theorem TaskFile.mem_known {path : Option String} (h : path.isSome) (j : TaskFile) :
    j ∈ known path := by
  cases path with
  | none => simp at h
  | some p => cases j <;> simp [known]

/-- A file still there after one removal was there before and is another one. -/
theorem TaskFile.of_update_false {files : TaskFile → Bool} {j k : TaskFile}
    (h : Function.update files j false k = true) : k ≠ j ∧ files k = true := by
  by_cases hk : k = j
  · subst hk
    simp at h
  · exact ⟨hk, by simpa [Function.update_of_ne hk] using h⟩

/-- Where a task's run stands. -/
inductive RunStage where
  /-- Probing, resolving the destination, transferring or merging. -/
  | working
  /-- The transfer has returned its outcome; nothing more is written. -/
  | ended (outcome : Finish)
  /-- Settled as cancelled, removing the files still listed. -/
  | removing (rest : List TaskFile)
  | exited
  deriving DecidableEq

/-- Where the cancel stands; from its transition on it remembers the status it found. -/
inductive CancelStage where
  | idle
  | unregistered
  | raised
  | marked (prior : Status)
  | removing (prior : Status) (rest : List TaskFile)
  | done (prior : Status)
  deriving DecidableEq

/-- Where a run goes once it has read the destination it knows and the signal: settled as
cancelled it removes the files of that destination, settled otherwise it exits. -/
def RunStage.settled (outcome : Finish) (signal : Option Signal) (path : Option String) :
    RunStage :=
  match outcome.under signal with
  | .cancelled => .removing (TaskFile.known path)
  | _ => .exited

/-- A task's run and one cancel of it, with the task's entry, whether the registry holds the
task, the signal on its token, and which of its files exist. The task's files are those at its
resolved destination, so it has none before that is resolved. -/
structure Race where
  entry : Entry
  registered : Bool
  signal : Option Signal
  files : TaskFile → Bool
  run : RunStage
  cancel : CancelStage

namespace Race

/-- One step of the run, of the cancel, or a pause. -/
inductive Step : Race → Race → Prop where
  /-- The run updates the task; a resolved destination stays. -/
  | update (s : Race) (e : Entry) (hrun : s.run ≠ .exited) (hc : Change s.entry e)
      (hkeep : s.entry.task.filePath.isSome → e.task.filePath = s.entry.task.filePath) :
      Step s { s with entry := e }
  /-- The run, its merge or one of its chunk threads touches files of the resolved
  destination. -/
  | write (s : Race) (files : TaskFile → Bool) (hrun : s.run = .working)
      (hplaced : s.entry.task.filePath.isSome) : Step s { s with files }
  /-- The transfer returns, `paused` only on reading a pause. -/
  | stop (s : Race) (outcome : Finish) (hrun : s.run = .working)
      (hpause : outcome = .paused → s.signal = some .pause) :
      Step s { s with run := .ended outcome }
  /-- The run reads the destination it knows and the signal, and settles. -/
  | settle (s : Race) (outcome : Finish) (hrun : s.run = .ended outcome) :
      Step s { s with run := .settled outcome s.signal s.entry.task.filePath }
  | runRemove (s : Race) (j : TaskFile) (rest : List TaskFile)
      (hrun : s.run = .removing (j :: rest)) :
      Step s { s with files := Function.update s.files j false, run := .removing rest }
  | exit (s : Race) (hrun : s.run = .removing []) : Step s { s with run := .exited }
  /-- A pause asked for while the registry holds the task. -/
  | pause (s : Race) (hreg : s.registered = true) :
      Step s { s with signal := Signal.join s.signal (some .pause) }
  | unregister (s : Race) (hc : s.cancel = .idle) (hreg : s.registered = true) :
      Step s { s with registered := false, cancel := .unregistered }
  | raise (s : Race) (hc : s.cancel = .unregistered) :
      Step s { s with signal := Signal.join s.signal (some .cancel), cancel := .raised }
  | mark (s : Race) (hc : s.cancel = .raised) :
      Step s { s with entry := (s.entry.transition .cancelled).2,
                      cancel := .marked s.entry.task.status }
  | snapshot (s : Race) (prior : Status) (hc : s.cancel = .marked prior) :
      Step s { s with cancel := .removing prior (TaskFile.known s.entry.task.filePath) }
  | cancelRemove (s : Race) (prior : Status) (j : TaskFile) (rest : List TaskFile)
      (hc : s.cancel = .removing prior (j :: rest)) :
      Step s { s with files := Function.update s.files j false, cancel := .removing prior rest }
  | finish (s : Race) (prior : Status) (hc : s.cancel = .removing prior []) :
      Step s { s with cancel := .done prior }

/-- A race as it starts: the run has just been spawned for a registered task, which has files
only if its destination is resolved, and the cancel has not begun. -/
structure Initial (s : Race) : Prop where
  registered : s.registered = true
  placed : ∀ j, s.files j = true → s.entry.task.filePath.isSome
  run : s.run = .working
  cancel : s.cancel = .idle

/-- The states a race reaches from a start. -/
inductive Reachable : Race → Prop
  | start {s : Race} (h : s.Initial) : Reachable s
  | step {s s' : Race} (h : Reachable s) (hs : Step s s') : Reachable s'

end Race

/-! ## What each party is bound to do -/

/-- The run is bound to remove file `j`: it is still working under a cancel, or has returned an
ending the signal makes a cancel, or is removing with `j` still to come. -/
def RunStage.Removes (signal : Option Signal) (j : TaskFile) : RunStage → Prop
  | .working => signal = some .cancel
  | .ended outcome => outcome.under signal = .cancelled
  | .removing rest => j ∈ rest
  | .exited => False

/-- A pause raised on top of a cancel takes none of the run's removals back. -/
theorem RunStage.Removes.join {r : RunStage} {signal : Option Signal} {j : TaskFile}
    (hr : r.Removes signal j) (a : Option Signal) : r.Removes (Signal.join signal a) j := by
  cases r with
  | working =>
    show Signal.join signal a = some .cancel
    rw [show signal = some .cancel from hr]
    exact Signal.join_cancel_left a
  | ended outcome => exact Finish.under_join hr a
  | removing rest => exact hr
  | exited => exact hr.elim

/-- The cancel is bound to remove file `j`: it has not yet read the destination, or is removing
with `j` still to come. -/
def CancelStage.Removes (j : TaskFile) : CancelStage → Prop
  | .removing _ rest => j ∈ rest
  | .done _ => False
  | _ => True

/-- Whether the cancel has raised its signal. -/
def CancelStage.raisedSignal : CancelStage → Bool
  | .idle | .unregistered => false
  | _ => true

/-- The status the cancel found, once it has made its transition. -/
def CancelStage.found : CancelStage → Option Status
  | .marked prior | .removing prior _ | .done prior => some prior
  | _ => none

/-- A cancel that no longer covers a file has raised its signal. -/
theorem CancelStage.raisedSignal_of_not_removes {c : CancelStage} {j : TaskFile}
    (h : ¬ c.Removes j) : c.raisedSignal = true := by
  cases c <;> simp_all [Removes, raisedSignal]

/-- The cancel's own transition leaves a status a cancel leaves. -/
theorem Entry.afterCancel_transition (e : Entry) :
    e.task.status.AfterCancel (e.transition .cancelled).2.task.status := by
  rw [Entry.transition_task]
  unfold Task.transition
  cases h : e.task.status <;> simp [h, Status.AfterCancel, Status.canTransitionTo]

/-- A status a cancel leaves is terminal, so no later change moves it. -/
theorem Change.afterCancel {prior : Status} {e e' : Entry} (hc : Change e e')
    (h : prior.AfterCancel e.task.status) : prior.AfterCancel e'.task.status := by
  rw [hc.walk.eq_of_isTerminal h.isTerminal]
  exact h

namespace Race

/-- What every reachable race keeps. -/
structure Safe (s : Race) : Prop where
  /-- The task has files only once its destination is resolved. -/
  placed : ∀ j, s.files j = true → s.entry.task.filePath.isSome
  /-- A raised cancel stays on the token. -/
  raised : s.cancel.raisedSignal = true → s.signal = some .cancel
  /-- The registry holds the task exactly until the cancel takes it out. -/
  registered : s.registered = true ↔ s.cancel = .idle
  /-- Every file that exists is one the cancel or the run is bound to remove. -/
  doomed : ∀ j, s.files j = true → s.cancel.Removes j ∨ s.run.Removes s.signal j
  /-- From its transition on, the cancel's task keeps a status a cancel leaves. -/
  settled : ∀ prior, s.cancel.found = some prior → prior.AfterCancel s.entry.task.status

theorem Initial.safe {s : Race} (h : s.Initial) : s.Safe where
  placed := h.placed
  raised hr := by simp [h.cancel, CancelStage.raisedSignal] at hr
  registered := by simp [h.registered, h.cancel]
  doomed j _ := .inl (by simp [h.cancel, CancelStage.Removes])
  settled prior hp := by simp [h.cancel, CancelStage.found] at hp

/-! ## One step -/

section Step

variable {s s' : Race}

theorem Step.placed (h : Step s s') (hs : s.Safe) :
    ∀ j, s'.files j = true → s'.entry.task.filePath.isSome := by
  intro j hj
  cases h with
  | update e _ _ hkeep => rw [hkeep (hs.placed j hj)]; exact hs.placed j hj
  | write _ _ hplaced => exact hplaced
  | runRemove => exact hs.placed j (TaskFile.of_update_false hj).2
  | cancelRemove => exact hs.placed j (TaskFile.of_update_false hj).2
  | mark => simpa using hs.placed j hj
  | _ => exact hs.placed j hj

theorem Step.raised (h : Step s s') (hs : s.Safe) :
    s'.cancel.raisedSignal = true → s'.signal = some .cancel := by
  intro hr
  cases h with
  | pause =>
    show Signal.join s.signal _ = _
    rw [hs.raised hr]
    exact Signal.join_cancel_left _
  | unregister => simp [CancelStage.raisedSignal] at hr
  | raise => exact Signal.join_cancel_right _
  | mark hc => exact hs.raised (by simp [hc, CancelStage.raisedSignal])
  | snapshot _ hc => exact hs.raised (by simp [hc, CancelStage.raisedSignal])
  | cancelRemove _ _ _ hc => exact hs.raised (by simp [hc, CancelStage.raisedSignal])
  | finish _ hc => exact hs.raised (by simp [hc, CancelStage.raisedSignal])
  | _ => exact hs.raised hr

theorem Step.registered (h : Step s s') (hs : s.Safe) : s'.registered = true ↔ s'.cancel = .idle := by
  cases h with
  | unregister => simp
  | raise hc => simpa [hc] using hs.registered
  | mark hc => simpa [hc] using hs.registered
  | snapshot _ hc => simpa [hc] using hs.registered
  | cancelRemove _ _ _ hc => simpa [hc] using hs.registered
  | finish _ hc => simpa [hc] using hs.registered
  | _ => exact hs.registered

theorem Step.settled (h : Step s s') (hs : s.Safe) :
    ∀ prior, s'.cancel.found = some prior → prior.AfterCancel s'.entry.task.status := by
  intro prior hp
  cases h with
  | update e _ hc => exact hc.afterCancel (hs.settled prior hp)
  | mark =>
    simp only [CancelStage.found, Option.some.injEq] at hp
    rw [← hp]
    exact Entry.afterCancel_transition _
  | unregister => simp [CancelStage.found] at hp
  | raise => simp [CancelStage.found] at hp
  | snapshot _ hc => exact hs.settled prior (by simpa [hc, CancelStage.found] using hp)
  | cancelRemove _ _ _ hc => exact hs.settled prior (by simpa [hc, CancelStage.found] using hp)
  | finish _ hc => exact hs.settled prior (by simpa [hc, CancelStage.found] using hp)
  | _ => exact hs.settled prior hp

/-- A file the run touches while a cancel may already have passed it is one the run is bound to
remove: a cancel that no longer covers it has raised its signal. -/
theorem Safe.doomed_write (hs : s.Safe) (hrun : s.run = .working) (j : TaskFile) :
    s.cancel.Removes j ∨ s.run.Removes s.signal j := by
  by_cases hc : s.cancel.Removes j
  · exact .inl hc
  · rw [hrun]
    exact .inr (hs.raised (CancelStage.raisedSignal_of_not_removes hc))

theorem Step.doomed (h : Step s s') (hs : s.Safe) :
    ∀ j, s'.files j = true → s'.cancel.Removes j ∨ s'.run.Removes s'.signal j := by
  intro j hj
  cases h with
  | write _ hrun => exact hs.doomed_write hrun j
  | stop outcome hrun hpause =>
    rcases hs.doomed j hj with hc | hr
    · exact .inl hc
    · rw [hrun] at hr
      simp only [RunStage.Removes] at hr
      -- a run working under a cancel cannot return a pause
      have hne : outcome ≠ .paused := fun ho => by simpa [hr] using hpause ho
      refine .inr ?_
      show outcome.under s.signal = .cancelled
      rw [hr]
      exact Finish.under_cancel hne
  | settle outcome hrun =>
    rcases hs.doomed j hj with hc | hr
    · exact .inl hc
    · rw [hrun] at hr
      simp only [RunStage.Removes] at hr
      refine .inr ?_
      simp only [RunStage.settled, hr, RunStage.Removes]
      exact TaskFile.mem_known (hs.placed j hj) j
  | runRemove k rest hrun =>
    obtain ⟨hne, hj⟩ := TaskFile.of_update_false hj
    rcases hs.doomed j hj with hc | hr
    · exact .inl hc
    · rw [hrun] at hr
      exact .inr (List.mem_of_ne_of_mem hne hr)
  | exit hrun =>
    rcases hs.doomed j hj with hc | hr
    · exact .inl hc
    · simp [hrun, RunStage.Removes] at hr
  | pause =>
    rcases hs.doomed j hj with hc | hr
    · exact .inl hc
    · exact .inr (hr.join _)
  | unregister hc => exact .inl (by simp [CancelStage.Removes])
  | raise hc => exact .inl (by simp [CancelStage.Removes])
  | mark hc => exact .inl (by simp [CancelStage.Removes])
  | snapshot prior hc =>
    exact .inl (by simpa [CancelStage.Removes] using TaskFile.mem_known (hs.placed j hj) j)
  | cancelRemove prior k rest hc =>
    obtain ⟨hne, hj⟩ := TaskFile.of_update_false hj
    rcases hs.doomed j hj with hr | hr
    · rw [hc] at hr
      exact .inl (List.mem_of_ne_of_mem hne hr)
    · exact .inr hr
  | finish prior hc =>
    rcases hs.doomed j hj with hr | hr
    · simp [hc, CancelStage.Removes] at hr
    · exact .inr hr
  | update => exact hs.doomed j hj

theorem Step.safe (h : Step s s') (hs : s.Safe) : s'.Safe where
  placed := h.placed hs
  raised := h.raised hs
  registered := h.registered hs
  doomed := h.doomed hs
  settled := h.settled hs

end Step

/-- Every reachable race is safe. -/
theorem Reachable.safe {s : Race} (h : s.Reachable) : s.Safe := by
  induction h with
  | start h => exact h.safe
  | step _ hs ih => exact hs.safe ih

/-- Once the run has exited and the cancel has returned, whatever the interleaving, the task is
out of the registry, none of its files exists, and it is cancelled or keeps the completed or
failed status the cancel found. -/
theorem cancel_leaves_nothing {s : Race} (h : s.Reachable) {prior : Status}
    (hrun : s.run = .exited) (hcancel : s.cancel = .done prior) :
    s.registered = false ∧ (∀ j, s.files j = false) ∧ prior.AfterCancel s.entry.task.status := by
  have hs := h.safe
  refine ⟨?_, fun j => ?_, hs.settled prior (by simp [hcancel, CancelStage.found])⟩
  · simpa [hcancel] using hs.registered
  · -- a file left would be one that someone is still bound to remove
    by_contra hj
    rcases hs.doomed j (by simpa using hj) with hc | hr
    · simp [hcancel, CancelStage.Removes] at hc
    · simp [hrun, RunStage.Removes] at hr

/-- A cancel landing after the transfer has read a pause: the run keeps its pause and removes
nothing, and the cancel's own removal takes the three files the run wrote. -/
theorem cancel_leaves_nothing_after_pause :
    ∃ s : Race, s.Reachable ∧ s.run = .exited ∧ s.cancel = .done .downloading ∧
      s.registered = false ∧ (∀ j, s.files j = false) ∧
        Status.downloading.AfterCancel s.entry.task.status := by
  let e : Entry := ⟨Task.new "t1" "http://h/x.bin" "p1" "/" none false 0, none, none,
    Tracker.start (Duration.ofSecs 1) 0 0, .root 0, [], none⟩
  have h₀ : Reachable ⟨e, true, none, fun _ => false, .working, .idle⟩ :=
    .start ⟨rfl, (fun _ h => nomatch h), rfl, rfl⟩
  -- the run resolves its destination, starts downloading and writes all three files
  have h₁ := h₀.step (.update _ _ nofun (.setDestination _ "x.bin" "p1/x.bin") nofun)
  have h₂ := h₁.step (.update _ _ nofun (.transition _ .downloading (.inl rfl)) fun _ => rfl)
  have h₃ := h₂.step (.write _ (fun _ => true) rfl rfl)
  -- a pause is read and the transfer returns
  have h₄ := h₃.step (.pause _ rfl)
  have h₅ := h₄.step (.stop _ .paused rfl fun _ => rfl)
  -- the cancel runs to its end
  have h₆ := h₅.step (.unregister _ rfl rfl)
  have h₇ := h₆.step (.raise _ rfl)
  have h₈ := h₇.step (.mark _ rfl)
  have h₉ := h₈.step (.snapshot _ .downloading rfl)
  have h₁₀ := h₉.step (.cancelRemove _ _ _ _ rfl)
  have h₁₁ := h₁₀.step (.cancelRemove _ _ _ _ rfl)
  have h₁₂ := h₁₁.step (.cancelRemove _ _ _ _ rfl)
  have h₁₃ := h₁₂.step (.finish _ _ rfl)
  -- the run reads the cancel, keeps its pause and exits
  have h₁₄ := h₁₃.step (.settle _ .paused rfl)
  exact ⟨_, h₁₄, rfl, rfl, cancel_leaves_nothing h₁₄ rfl rfl⟩

end Race

end Controller

end DownloadEngine
