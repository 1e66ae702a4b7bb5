import DownloadEngine.Controller.Engine
import Mathlib.Logic.Relation

/-!
# The bookkeeping of a task

A task's record keeps its sizes, percent, rate, time left and failure text in step with its
status. `Task.Sound` names that agreement: a known total is at least the bytes on disk; the
percent is the one the sizes give, except that a completed task is whole at one hundred
percent with no time left; a failure text is there exactly in `error`; and a task that is not
moving bytes shows no rate and no time left.

Each update of the record keeps it, provided a completion goes through `markCompleted` and a
failure through `markFailed`, and a change of size never lands on a completed task. A status
moves only along the task's edges, so it walks them, and an update that answers `false`
changes nothing.

## Main statements

* `Task.transition_cases`: everything a transition can do.
* `Task.sound_transition`, `Task.sound_setSizes`, `Task.sound_markCompleted`,
  `Task.sound_markFailed`: the updates keep the bookkeeping.
* `Task.walk_transition`: a transition walks the edges.
-/

namespace DownloadEngine

namespace Status

/-- The statuses reachable from `a` along the task's edges. -/
def Walk (a b : Status) : Prop := Relation.ReflTransGen (fun x y => x.canTransitionTo y = true) a b

theorem Walk.refl (a : Status) : Walk a a := Relation.ReflTransGen.refl

theorem Walk.edge {a b : Status} (h : a.canTransitionTo b = true) : Walk a b :=
  Relation.ReflTransGen.single h

theorem Walk.trans {a b c : Status} (hab : Walk a b) (hbc : Walk b c) : Walk a c :=
  Relation.ReflTransGen.trans hab hbc

/-- A walk from a terminal status stays there: no edge leaves it. -/
theorem Walk.eq_of_isTerminal {a b : Status} (h : Walk a b) (ht : a.isTerminal = true) : b = a := by
  induction h with
  | refl => rfl
  | tail _ hstep ih =>
      subst ih
      simp [canTransitionTo_of_isTerminal ht] at hstep

theorem ne_of_canTransitionTo {a b : Status} (h : a.canTransitionTo b = true) : a ≠ b := by
  rintro rfl
  cases a <;> simp [canTransitionTo] at h

/-- An edge leaves a live status. -/
theorem live_of_canTransitionTo {a b : Status} (h : a.canTransitionTo b = true) :
    a ≠ .completed ∧ a ≠ .error ∧ a ≠ .cancelled := by
  cases a <;> cases b <;> simp_all [canTransitionTo]

/-- Only `downloading` leads to `completed` and to `error`. -/
theorem eq_downloading_of_canTransitionTo {a b : Status} (h : a.canTransitionTo b = true)
    (hb : b = .completed ∨ b = .error) : a = .downloading := by
  rcases hb with rfl | rfl <;> cases a <;> simp_all [canTransitionTo]

end Status

namespace Task

/-- The bookkeeping a task keeps in every status. -/
structure Sound (t : Task) : Prop where
  /-- A known total is at least the bytes on disk. -/
  sized : t.totalSize = 0 ∨ t.downloadedSize ≤ t.totalSize
  /-- Outside `completed` the percent is the one the sizes give. -/
  percent : t.status ≠ .completed → t.progressPercent = percentDone t.downloadedSize t.totalSize
  /-- A completed task is whole, with no time left. -/
  whole : t.status = .completed →
    t.progressPercent = 100 ∧ t.downloadedSize = t.totalSize ∧ t.timeRemainingSec = some 0
  /-- A failure text is there exactly in `error`. -/
  failed : t.errorMessage.isSome ↔ t.status = .error
  /-- A task that is not moving bytes shows no rate and no time left. -/
  idle : t.status ∈ [.preparing, .paused, .error, .cancelled] →
    t.speedBytesPerSec = 0 ∧ t.timeRemainingSec = none

theorem sound_new (taskId url projectId destinationPath : String) (filename : Option String)
    (concurrent : Bool) (startedAt : Nat) :
    (Task.new taskId url projectId destinationPath filename concurrent startedAt).Sound where
  sized := Or.inl rfl
  percent _ := by simp [Task.new, percentDone]
  whole h := by simp [Task.new] at h
  failed := by simp [Task.new]
  idle _ := ⟨rfl, rfl⟩

/-- Everything a transition can do: stay, refuse, or move along an edge, clearing the rate
and the time left unless the task starts downloading. -/
theorem transition_cases (t : Task) (next : Status) :
    (t.status = next ∧ t.transition next = (true, t)) ∨
    (t.status.canTransitionTo next = false ∧ t.status ≠ next ∧ t.transition next = (false, t)) ∨
    (t.status.canTransitionTo next = true ∧ next = .downloading ∧
      t.transition next = (true, { t with status := next })) ∨
    (t.status.canTransitionTo next = true ∧ next ≠ .downloading ∧ t.transition next =
      (true, { t with status := next, speedBytesPerSec := 0, timeRemainingSec := none })) := by
  unfold transition
  by_cases hs : t.status = next
  · exact Or.inl ⟨hs, by simp [hs]⟩
  · by_cases he : t.status.canTransitionTo next = true
    · by_cases hd : next = .downloading
      · subst hd
        exact Or.inr (Or.inr (Or.inl ⟨he, rfl, by simp [hs, he]⟩))
      · exact Or.inr (Or.inr (Or.inr ⟨he, hd, by simp [hs, he, hd]⟩))
    · exact Or.inr (Or.inl ⟨by simpa using he, hs, by simp [hs, he]⟩)

theorem transition_false {t : Task} {next : Status} (h : (t.transition next).1 = false) :
    (t.transition next).2 = t := by
  rcases transition_cases t next with ⟨-, ht⟩ | ⟨-, -, ht⟩ | ⟨-, -, ht⟩ | ⟨-, -, ht⟩ <;>
    simp_all

theorem walk_transition (t : Task) (next : Status) :
    t.status.Walk (t.transition next).2.status := by
  rcases transition_cases t next with ⟨-, ht⟩ | ⟨-, -, ht⟩ | ⟨he, -, ht⟩ | ⟨he, -, ht⟩
  · rw [ht]; exact Status.Walk.refl _
  · rw [ht]; exact Status.Walk.refl _
  · rw [ht]; exact Status.Walk.edge he
  · rw [ht]; exact Status.Walk.edge he

/-- A failure text is absent outside `error`. -/
theorem Sound.errorMessage_none {t : Task} (h : t.Sound) (he : t.status ≠ .error) :
    t.errorMessage = none := by
  simpa [he] using h.failed

theorem sound_transition {t : Task} (h : t.Sound) {next : Status} (hc : next ≠ .completed)
    (he : next ≠ .error) : (t.transition next).2.Sound := by
  rcases transition_cases t next with ⟨-, ht⟩ | ⟨-, -, ht⟩ | ⟨hedge, rfl, ht⟩ | ⟨hedge, hd, ht⟩
  · rw [ht]; exact h
  · rw [ht]; exact h
  · -- into `downloading`: the sizes stay and the source was live
    obtain ⟨hsc, hse, -⟩ := Status.live_of_canTransitionTo hedge
    rw [ht]
    exact ⟨h.sized, fun _ => h.percent hsc, by simp, by simp [h.errorMessage_none hse],
      by simp⟩
  · -- into `paused` or `cancelled`: the rate and the time left are cleared
    obtain ⟨hsc, hse, -⟩ := Status.live_of_canTransitionTo hedge
    rw [ht]
    exact ⟨h.sized, fun _ => h.percent hsc, by simp [hc], by simp [h.errorMessage_none hse, he],
      fun _ => ⟨rfl, rfl⟩⟩

theorem sound_setSizes {t : Task} (h : t.Sound) (hc : t.status ≠ .completed)
    (downloaded total : Nat) : (t.setSizes downloaded total).Sound where
  sized := by
    simp only [setSizes]
    split <;> omega
  percent _ := rfl
  whole h' := absurd h' hc
  failed := h.failed
  idle := h.idle

theorem sound_applyThroughput {t : Task} (h : t.Sound) (hd : t.status = .downloading)
    (th : Throughput) : (t.applyThroughput th).Sound where
  sized := h.sized
  percent := h.percent
  whole h' := by simp [applyThroughput, hd] at h'
  failed := h.failed
  idle h' := by simp [applyThroughput, hd] at h'

/-- The record a completion leaves: whole at one hundred percent with no time left. -/
theorem sound_completedRecord {t : Task} (hs : t.status = .completed)
    (hm : t.errorMessage = none) (total : Nat) :
    ({ t with totalSize := total, downloadedSize := total, progressPercent := 100,
               timeRemainingSec := some 0 } : Task).Sound where
  sized := Or.inr (Nat.le_refl _)
  percent h' := absurd hs h'
  whole _ := ⟨rfl, rfl, rfl⟩
  failed := by simp [hs, hm]
  idle h' := by simp [hs] at h'

theorem sound_markCompleted {t : Task} (h : t.Sound) : t.markCompleted.2.Sound := by
  unfold markCompleted
  rcases transition_cases t .completed with ⟨hs, ht⟩ | ⟨-, -, ht⟩ | ⟨-, hd, -⟩ | ⟨hedge, -, ht⟩
  · rw [ht]
    exact sound_completedRecord hs (h.errorMessage_none (by simp [hs])) _
  · rw [ht]; exact h
  · cases hd
  · -- a completion from `downloading`, where no failure text is kept
    have hsd := Status.eq_downloading_of_canTransitionTo hedge (Or.inl rfl)
    rw [ht]
    let moved : Task := { t with status := .completed, speedBytesPerSec := 0, timeRemainingSec := none }
    exact sound_completedRecord (rfl : moved.status = .completed)
      (h.errorMessage_none (by simp [hsd])) _

theorem sound_markFailed {t : Task} (h : t.Sound) (message : String) :
    (t.markFailed message).2.Sound := by
  unfold markFailed
  rcases transition_cases t .error with ⟨hs, ht⟩ | ⟨-, -, ht⟩ | ⟨-, hd, -⟩ | ⟨hedge, -, ht⟩
  · -- already failed: only the text changes
    rw [ht]
    exact ⟨h.sized, fun _ => h.percent (by simp [hs]), by simp [hs], by simp [hs],
      fun _ => h.idle (by simp [hs])⟩
  · rw [ht]; exact h
  · cases hd
  · have hsd := Status.eq_downloading_of_canTransitionTo hedge (Or.inr rfl)
    rw [ht]
    exact ⟨h.sized, fun _ => h.percent (by simp [hsd]), by simp, by simp, fun _ => ⟨rfl, rfl⟩⟩

/-- Along an edge a transition succeeds and lands on the status it was asked for. -/
theorem transition_of_canTransitionTo {t : Task} {next : Status}
    (h : t.status.canTransitionTo next = true) :
    (t.transition next).1 = true ∧ (t.transition next).2.status = next := by
  rcases transition_cases t next with ⟨hs, ht⟩ | ⟨he, -, -⟩ | ⟨-, -, ht⟩ | ⟨-, -, ht⟩
  · simp [ht, hs]
  · simp [h] at he
  · simp [ht]
  · simp [ht]

/-- A transition lands on the status it was asked for, or leaves the status alone. -/
theorem transition_status_cases (t : Task) (next : Status) :
    (t.transition next).2.status = t.status ∨ (t.transition next).2.status = next := by
  rcases transition_cases t next with ⟨-, ht⟩ | ⟨-, -, ht⟩ | ⟨-, -, ht⟩ | ⟨-, -, ht⟩ <;>
    simp [ht]

theorem markCompleted_eq (t : Task) :
    t.markCompleted = ((t.transition .completed).1,
      if (t.transition .completed).1 then
        let t' := (t.transition .completed).2
        let total := if t'.totalSize = 0 ∨ t'.downloadedSize > t'.totalSize then t'.downloadedSize
          else t'.totalSize
        { t' with totalSize := total, downloadedSize := total, progressPercent := 100,
                  timeRemainingSec := some 0 }
      else t) := by
  unfold markCompleted
  cases h : t.transition .completed with
  | mk b t' =>
      cases b
      · -- a refused transition hands the task back unchanged
        have hf : (t.transition .completed).2 = t := transition_false (by simp [h])
        simp only [h] at hf
        simp [hf]
      · simp

theorem markFailed_eq (t : Task) (message : String) :
    t.markFailed message = ((t.transition .error).1,
      if (t.transition .error).1 then { (t.transition .error).2 with errorMessage := some message }
      else t) := by
  unfold markFailed
  cases h : t.transition .error with
  | mk b t' =>
      cases b
      · -- a refused transition hands the task back unchanged
        have hf : (t.transition .error).2 = t := transition_false (by simp [h])
        simp only [h] at hf
        simp [hf]
      · simp

theorem markFailed_false {t : Task} {message : String} (h : (t.markFailed message).1 = false) :
    (t.markFailed message).2 = t := by
  rw [markFailed_eq] at h ⊢
  simp_all

theorem markFailed_status_cases (t : Task) (message : String) :
    (t.markFailed message).2.status = t.status ∨ (t.markFailed message).2.status = .error := by
  rw [markFailed_eq]
  split
  · exact transition_status_cases t .error
  · exact Or.inl rfl

/-- A downloading task always completes. -/
theorem markCompleted_fst_of_downloading {t : Task} (h : t.status = .downloading) :
    t.markCompleted.1 = true := by
  rw [markCompleted_eq]
  exact (transition_of_canTransitionTo (by simp [h, Status.canTransitionTo])).1

/-- A downloading task always fails when asked to. -/
theorem markFailed_fst_of_downloading {t : Task} (h : t.status = .downloading) (message : String) :
    (t.markFailed message).1 = true := by
  rw [markFailed_eq]
  exact (transition_of_canTransitionTo (by simp [h, Status.canTransitionTo])).1

theorem walk_markCompleted (t : Task) : t.status.Walk t.markCompleted.2.status := by
  rw [markCompleted_eq]
  split
  · exact walk_transition t .completed
  · exact Status.Walk.refl _

theorem walk_markFailed (t : Task) (message : String) :
    t.status.Walk (t.markFailed message).2.status := by
  rw [markFailed_eq]
  split
  · exact walk_transition t .error
  · exact Status.Walk.refl _

@[simp] theorem setSizes_status (t : Task) (downloaded total : Nat) :
    (t.setSizes downloaded total).status = t.status := rfl

@[simp] theorem applyThroughput_status (t : Task) (th : Throughput) :
    (t.applyThroughput th).status = t.status := rfl

end Task

end DownloadEngine
