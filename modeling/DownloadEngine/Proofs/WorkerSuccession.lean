import DownloadEngine.Controller.Engine

/-!
# One worker at a time for each task

The engine runs each attempt of a task in a worker thread of its own, and a new worker first
joins the one it was handed before it probes or touches a file. A resume hands over the worker
the task's entry holds. A start hands over the first retired worker of its id: cancelling or
cleaning up a task takes its entry out of the registry under the registry's lock, and only
afterwards, outside that lock, puts the entry's worker on the list of retired workers. A
shutdown takes the entries' workers and the retired ones and joins them, also outside the lock.
When the system refuses a thread, the handle the new worker was to join goes with it.

`Lineage` is what the engine holds of one task id: its entry, its retired workers, the handles
that cancels and cleanups have taken and not yet retired, those a shutdown has taken and not yet
joined, and the id's worker threads, by handle. `Succession.Step careful` is one step of the
engine's calls on the id or of its workers. A resume finds the task paused, and a cleanup finds
it completed or failed, only once the latest worker has set that status as its last act, so
both find that worker ended. Under a `careful` schedule no start comes while a cancel, a
cleanup or a shutdown holds a worker it has not yet handed on, and the system refuses no start
while a worker is retired. Without that care, a start that lands between a cancel's two lock
sections finds no worker to join while the cancelled one is still finishing.

## Main statements

* `Lineage.Step.orderly`: one careful step keeps `Lineage.Orderly`: a worker that has begun found
  every earlier worker ended, each worker joins the one before it unless that one had ended,
  and the latest worker is held where the next start or resume looks for it.
* `Lineage.one_worker_at_a_time`: under careful schedules no two workers of the id work at once.
* `Lineage.start_in_cancel_window_overlaps`: without that care two workers of the id work at once.
-/

namespace DownloadEngine.Controller

theorem swapRemove_map {α β : Type} (f : α → β) (l : List α) (i : Nat) :
    swapRemove (l.map f) i = (swapRemove l i).map f := by
  unfold swapRemove
  rw [List.getLast?_map]
  cases l.getLast? with
  | none => rfl
  | some last => simp [List.map_set, List.map_dropLast]

/-- On the retired workers of one id, a start takes the first, and the last takes its place. -/
theorem takeRetired_own (taskId : String) (l : List Nat) :
    takeRetired (l.map (taskId, ·)) taskId = (l.head?, (swapRemove l 0).map (taskId, ·)) := by
  cases l with
  | nil => rfl
  | cons h t =>
    rw [← swapRemove_map]
    simp [takeRetired, List.findIdx?_cons]

theorem swapRemove_zero_of_length_le_one {α : Type} {l : List α} (hl : l.length ≤ 1) :
    swapRemove l 0 = [] := by
  match l, hl with
  | [], _ => rfl
  | [_], _ => rfl

namespace Succession

/-- Where a worker thread stands. -/
inductive Stage where
  /-- Joining the worker it was handed, before it touches anything. -/
  | waiting
  /-- Probing, transferring or finishing. -/
  | working
  | ended
  deriving DecidableEq

/-- A worker thread of the task: the handle it joins first, and its stage. -/
structure Thread where
  joins : Option Nat
  stage : Stage
  deriving DecidableEq

/-- What the engine holds of one task id, and the workers made for it, numbered by handle. -/
structure Lineage where
  /-- The registry's entry for the id, with its worker's handle, while the id is registered. -/
  entry : Option (Option Nat)
  /-- The retired workers of the id, oldest first. -/
  retired : List Nat
  /-- The handles cancels and cleanups took out with the entry and have not yet retired. -/
  retiring : List (Option Nat)
  /-- The handles a shutdown took and has not yet joined. -/
  joining : List Nat
  threads : List Thread

namespace Lineage

/-- Nothing held and no worker made. -/
def empty : Lineage := ⟨none, [], [], [], []⟩

/-- Whether the worker with handle `h` has ended. -/
def ended (s : Lineage) (h : Nat) : Bool := s.threads[h]?.any (·.stage == .ended)

/-- Whether the latest worker, if there is one, has ended. -/
def settled (s : Lineage) : Bool := s.threads.getLast?.all (·.stage == .ended)

/-- One step of the engine's calls on the id or of its workers; `careful` restricts when a start
may come and whether the system may refuse it. -/
inductive Step (careful : Bool) : Lineage → Lineage → Prop where
  /-- A start registers the id and makes a worker that joins the first retired one. -/
  | start (s : Lineage) (hfree : s.entry = none)
      (hcareful : careful = true → s.retiring = [] ∧ s.joining = []) :
      Step careful s { s with threads := s.threads ++ [⟨s.retired.head?, .waiting⟩],
                              entry := some (some s.threads.length)
                              retired := swapRemove s.retired 0 }
  /-- The system refuses a start's thread; the retired worker it took goes with it. -/
  | refuseStart (s : Lineage) (hfree : s.entry = none)
      (hcareful : careful = true → s.retired = []) :
      Step careful s { s with retired := swapRemove s.retired 0 }
  /-- A resume makes a worker that joins the entry's. -/
  | resume (s : Lineage) (w : Option Nat) (he : s.entry = some w) (hs : s.settled = true) :
      Step careful s { s with threads := s.threads ++ [⟨w, .waiting⟩],
                              entry := some (some s.threads.length) }
  /-- The system refuses a resume's thread; the entry's handle goes with it. -/
  | refuseResume (s : Lineage) (w : Option Nat) (he : s.entry = some w) (hs : s.settled = true) :
      Step careful s { s with entry := some none }
  /-- A cancel takes the entry out of the registry, with its worker's handle. -/
  | cancel (s : Lineage) (w : Option Nat) (he : s.entry = some w) :
      Step careful s { s with entry := none, retiring := s.retiring ++ [w] }
  /-- A cleanup takes out the entry of a task that has settled. -/
  | cleanup (s : Lineage) (w : Option Nat) (he : s.entry = some w) (hs : s.settled = true) :
      Step careful s { s with entry := none, retiring := s.retiring ++ [w] }
  /-- The cancel or cleanup, outside the registry's lock, retires the worker it took. -/
  | retire (s : Lineage) (w : Option Nat) (hw : w ∈ s.retiring) :
      Step careful s { s with retiring := s.retiring.erase w, retired := s.retired ++ w.toList }
  /-- A cleanup joins a retired worker that has ended. -/
  | reap (s : Lineage) (h : Nat) (hr : h ∈ s.retired) (hend : s.ended h = true) :
      Step careful s { s with retired := s.retired.erase h }
  /-- A shutdown takes the entry's worker to join it. -/
  | shutdownTake (s : Lineage) (h : Nat) (he : s.entry = some (some h)) :
      Step careful s { s with entry := some none, joining := s.joining ++ [h] }
  /-- A shutdown takes a retired worker to join it. -/
  | shutdownDrain (s : Lineage) (h : Nat) (hr : h ∈ s.retired) :
      Step careful s { s with retired := s.retired.erase h, joining := s.joining ++ [h] }
  | shutdownJoin (s : Lineage) (h : Nat) (hj : h ∈ s.joining) (hend : s.ended h = true) :
      Step careful s { s with joining := s.joining.erase h }
  /-- A worker has joined the one it was handed, which has ended, and begins its work. -/
  | begin (s : Lineage) (i : Nat) (hi : i < s.threads.length)
      (hw : s.threads[i].stage = .waiting) (hj : s.threads[i].joins.all s.ended = true) :
      Step careful s { s with threads := s.threads.set i ⟨s.threads[i].joins, .working⟩ }
  | finish (s : Lineage) (i : Nat) (hi : i < s.threads.length)
      (hw : s.threads[i].stage = .working) :
      Step careful s { s with threads := s.threads.set i ⟨s.threads[i].joins, .ended⟩ }

/-- The states the engine reaches from nothing for the id. -/
inductive Reachable (careful : Bool) : Lineage → Prop
  | empty : Reachable careful empty
  | step {s t : Lineage} (h : Reachable careful s) (hs : Step careful s t) : Reachable careful t

/-- What careful schedules keep. -/
structure Orderly (s : Lineage) : Prop where
  /-- A worker that has begun found every earlier worker of the id ended. -/
  alone : ∀ i j t, i < j → s.threads[j]? = some t → t.stage ≠ .waiting → s.ended i = true
  /-- Each worker joins the one before it, unless that one had ended when it was made. -/
  chained : ∀ i t, s.threads[i + 1]? = some t → t.joins = some i ∨ s.ended i = true
  /-- The latest worker, until it ends, is held where the next start or resume looks for it,
  or by a call that will hand it on or join it. -/
  held : ∀ n, n + 1 = s.threads.length → s.ended n = false →
    s.entry = some (some n) ∨ some n ∈ s.retiring ∨ n ∈ s.retired ∨ n ∈ s.joining
  retiredOne : s.retired.length ≤ 1
  /-- A worker is retired only while the id has no entry and no cancel or cleanup holds one. -/
  retiredAlone : s.retired ≠ [] → s.entry = none ∧ s.retiring = []
  retiringOne : s.retiring.length ≤ 1
  retiringAlone : s.retiring ≠ [] → s.entry = none

theorem orderly_empty : empty.Orderly where
  alone := by simp [empty]
  chained := by simp [empty]
  held := by simp [empty]
  retiredOne := by simp [empty]
  retiredAlone := by simp [empty]
  retiringOne := by simp [empty]
  retiringAlone := by simp [empty]

theorem eq_singleton_of_mem {α : Type} {l : List α} {a : α} (hl : l.length ≤ 1) (ha : a ∈ l) :
    l = [a] := by
  match l, hl with
  | [b], _ => simp_all

section Orderly

variable {s : Lineage}

theorem lt_of_ended {h : Nat} (hh : s.ended h = true) : h < s.threads.length := by
  rcases Nat.lt_or_ge h s.threads.length with hlt | hge
  · exact hlt
  · simp [ended, List.getElem?_eq_none hge] at hh

/-- A settled id's latest worker has ended. -/
theorem ended_of_settled (hset : s.settled = true) {n : Nat} (hn : n + 1 = s.threads.length) :
    s.ended n = true := by
  have hlt : n < s.threads.length := by omega
  have hlast : s.threads.getLast? = s.threads[n]? := by
    rw [List.getLast?_eq_getElem?, ← hn, Nat.add_sub_cancel]
  rw [settled, hlast, List.getElem?_eq_getElem hlt] at hset
  simpa [ended, List.getElem?_eq_getElem hlt] using hset

theorem Orderly.retiring_eq_nil (hs : s.Orderly) {w : Option Nat} (he : s.entry = some w) :
    s.retiring = [] := by
  by_cases hr : s.retiring = []
  · exact hr
  · simp [hs.retiringAlone hr] at he

theorem Orderly.retired_eq_nil (hs : s.Orderly) {w : Option Nat} (he : s.entry = some w) :
    s.retired = [] := by
  by_cases hr : s.retired = []
  · exact hr
  · simp [(hs.retiredAlone hr).1] at he

theorem Orderly.retired_eq_nil_of_retiring (hs : s.Orderly) {w : Option Nat}
    (hw : w ∈ s.retiring) : s.retired = [] := by
  by_cases hr : s.retired = []
  · exact hr
  · simp [(hs.retiredAlone hr).2] at hw

/-- Every worker before one that has ended has ended too. -/
theorem Orderly.ended_of_le (hs : s.Orderly) {i k : Nat} (hk : s.ended k = true) (hik : i ≤ k) :
    s.ended i = true := by
  rcases Nat.lt_or_eq_of_le hik with hlt | rfl
  · obtain ⟨t, ht, hst⟩ : ∃ t, s.threads[k]? = some t ∧ t.stage = .ended := by
      simpa [ended, Option.any_eq_true] using hk
    exact hs.alone i k t hlt ht (by simp [hst])
  · exact hk

/-- A worker that finds the worker it was handed ended finds every earlier worker ended: it
was handed the one before it, unless that one had ended already. -/
theorem Orderly.ended_of_joined (hs : s.Orderly) {k : Nat} (hk : k < s.threads.length)
    (hj : s.threads[k].joins.all s.ended = true) {i : Nat} (hik : i < k) : s.ended i = true := by
  obtain ⟨m, rfl⟩ : ∃ m, k = m + 1 := ⟨k - 1, by omega⟩
  have hprev : s.ended m = true := by
    rcases hs.chained m s.threads[m + 1] (List.getElem?_eq_getElem hk) with hjoin | hend
    · simpa [hjoin] using hj
    · exact hend
  exact hs.ended_of_le hprev (by omega)

end Orderly

section Step

variable {careful : Bool} {s s' : Lineage}

theorem ended_of_append {t : Thread} {h : Nat} (hh : s.ended h = true) :
    (s.threads ++ [t])[h]?.any (·.stage == .ended) = true := by
  rw [List.getElem?_append_left (lt_of_ended hh)]
  exact hh

/-- A worker that has ended stays ended. -/
theorem Step.ended_mono (h : Step careful s s') {k : Nat} (hk : s.ended k = true) :
    s'.ended k = true := by
  cases h with
  | start | resume => exact ended_of_append hk
  | begin i hi hw =>
    -- the worker that begins was waiting, so it is not the one that has ended
    have hne : i ≠ k := by
      rintro rfl
      simp [ended, List.getElem?_eq_getElem hi, hw] at hk
    simpa [ended, List.getElem?_set, hne] using hk
  | finish i hi =>
    by_cases hik : i = k
    · subst hik
      simp [ended, hi]
    · simpa [ended, List.getElem?_set, hik] using hk
  | _ => exact hk

theorem Step.not_ended (h : Step careful s s') {k : Nat} (hk : s'.ended k = false) :
    s.ended k = false := by
  cases hold : s.ended k
  · rfl
  · simp [h.ended_mono hold] at hk

theorem Step.retiringAlone (h : Step true s s') (hs : s.Orderly) :
    s'.retiring ≠ [] → s'.entry = none := by
  intro hne
  cases h with
  | start _ hcareful => exact absurd (hcareful rfl).1 hne
  | refuseStart hfree => exact hfree
  | resume w he | refuseResume w he | shutdownTake _ he =>
    exact absurd (hs.retiring_eq_nil he) hne
  | cancel | cleanup => rfl
  | retire w hw => exact hs.retiringAlone (List.ne_nil_of_mem hw)
  | _ => exact hs.retiringAlone hne

theorem Step.retiringOne (h : Step true s s') (hs : s.Orderly) : s'.retiring.length ≤ 1 := by
  cases h with
  | cancel w he | cleanup w he => simp [hs.retiring_eq_nil he]
  | retire w => exact Nat.le_trans List.length_erase_le hs.retiringOne
  | _ => exact hs.retiringOne

theorem Step.retiredOne (h : Step true s s') (hs : s.Orderly) : s'.retired.length ≤ 1 := by
  cases h with
  | start | refuseStart => simp [swapRemove_zero_of_length_le_one hs.retiredOne]
  | retire w hw =>
    -- a worker is retired only while no cancel or cleanup holds one
    rw [hs.retired_eq_nil_of_retiring hw]
    cases w <;> simp
  | reap | shutdownDrain => exact Nat.le_trans List.length_erase_le hs.retiredOne
  | _ => exact hs.retiredOne

theorem Step.retiredAlone (h : Step true s s') (hs : s.Orderly) :
    s'.retired ≠ [] → s'.entry = none ∧ s'.retiring = [] := by
  intro hne
  cases h with
  | start | refuseStart => simp [swapRemove_zero_of_length_le_one hs.retiredOne] at hne
  | resume w he | refuseResume w he | cancel w he | cleanup w he | shutdownTake _ he =>
    -- a registered id has no retired worker
    exact absurd (hs.retired_eq_nil he) hne
  | retire w hw =>
    refine ⟨hs.retiringAlone (List.ne_nil_of_mem hw), ?_⟩
    simp [eq_singleton_of_mem hs.retiringOne hw]
  | reap _ hr | shutdownDrain _ hr => exact hs.retiredAlone (List.ne_nil_of_mem hr)
  | _ => exact hs.retiredAlone hne

/-- A new worker keeps the chain when it joins the latest one, or that one has ended. -/
theorem chained_append (hs : s.Orderly) {t₀ : Thread}
    (hnew : ∀ n, n + 1 = s.threads.length → t₀.joins = some n ∨ s.ended n = true) :
    ∀ i t, (s.threads ++ [t₀])[i + 1]? = some t →
      t.joins = some i ∨ (s.threads ++ [t₀])[i]?.any (·.stage == .ended) = true := by
  intro i t ht
  rw [List.getElem?_append] at ht
  split at ht
  · rcases hs.chained i t ht with hj | hk
    · exact .inl hj
    · exact .inr (ended_of_append hk)
  · -- the new worker is the one at `i + 1`
    obtain ⟨hlen, rfl⟩ : i + 1 - s.threads.length = 0 ∧ t₀ = t := by
      simpa [List.getElem?_cons] using ht
    rcases hnew i (by omega) with hj | hk
    · exact .inl hj
    · exact .inr (ended_of_append hk)

/-- A new worker that is still waiting keeps every begun worker alone. -/
theorem alone_append (hs : s.Orderly) {t₀ : Thread} (hw : t₀.stage = .waiting) :
    ∀ (i j : Nat) (t : Thread), i < j → (s.threads ++ [t₀])[j]? = some t → t.stage ≠ .waiting →
      (s.threads ++ [t₀])[i]?.any (·.stage == .ended) = true := by
  intro i j t hij ht hst
  rw [List.getElem?_append] at ht
  split at ht
  · exact ended_of_append (hs.alone i j t hij ht hst)
  · obtain ⟨_, rfl⟩ : j - s.threads.length = 0 ∧ t₀ = t := by
      simpa [List.getElem?_cons] using ht
    exact absurd hw hst

theorem Step.alone (h : Step true s s') (hs : s.Orderly) :
    ∀ i j t, i < j → s'.threads[j]? = some t → t.stage ≠ .waiting → s'.ended i = true := by
  intro i j t hij ht hst
  have mono := fun {k} (hk : s.ended k = true) => h.ended_mono hk
  cases h with
  | start | resume => exact alone_append hs rfl i j t hij ht hst
  | begin k hk hw hj =>
    rw [List.getElem?_set] at ht
    split at ht
    · -- the worker that begins found every earlier one ended
      rename_i hkj
      subst hkj
      exact mono (hs.ended_of_joined hk hj hij)
    · exact mono (hs.alone i j t hij ht hst)
  | finish k hk hw =>
    rw [List.getElem?_set] at ht
    split at ht
    · -- the worker that finishes had begun
      rename_i hkj
      subst hkj
      exact mono (hs.alone i k s.threads[k] hij (List.getElem?_eq_getElem hk) (by simp [hw]))
    · exact mono (hs.alone i j t hij ht hst)
  | _ => exact hs.alone i j t hij ht hst

theorem Step.chained (h : Step true s s') (hs : s.Orderly) :
    ∀ i t, s'.threads[i + 1]? = some t → t.joins = some i ∨ s'.ended i = true := by
  intro i t ht
  have mono := fun {k} (hk : s.ended k = true) => h.ended_mono hk
  cases h with
  | start hfree hcareful =>
    refine chained_append hs ?_ i t ht
    -- the new worker joins the first retired one, which is the latest unless that has ended
    intro n hn
    cases hk : s.ended n
    · rcases hs.held n hn hk with hentry | hmem | hmem | hmem
      · simp [hfree] at hentry
      · simp [(hcareful rfl).1] at hmem
      · simp [eq_singleton_of_mem hs.retiredOne hmem]
      · simp [(hcareful rfl).2] at hmem
    · exact .inr rfl
  | resume w he hset =>
    exact chained_append hs (fun n hn => .inr (ended_of_settled hset hn)) i t ht
  | begin k hk | finish k hk =>
    -- beginning or finishing keeps what a worker joins
    rw [List.getElem?_set] at ht
    split at ht
    · rename_i hki
      subst hki
      simp only [Option.some.injEq] at ht
      subst ht
      rcases hs.chained i _ (List.getElem?_eq_getElem hk) with hj | hend
      · exact .inl hj
      · exact .inr (mono hend)
    · rcases hs.chained i t ht with hj | hend
      · exact .inl hj
      · exact .inr (mono hend)
  | _ => exact hs.chained i t ht

/-- Joining a worker that has ended leaves an unfinished one where it was held. -/
theorem mem_erase_of_ended {l : List Nat} {n r : Nat} (hn : n ∈ l) (hr : s.ended r = true)
    (hend : s.ended n = false) : n ∈ l.erase r := by
  have hne : n ≠ r := by
    rintro rfl
    simp [hr] at hend
  exact (List.mem_erase_of_ne hne).mpr hn

theorem Step.held (h : Step true s s') (hs : s.Orderly) :
    ∀ n, n + 1 = s'.threads.length → s'.ended n = false →
      s'.entry = some (some n) ∨ some n ∈ s'.retiring ∨ n ∈ s'.retired ∨ n ∈ s'.joining := by
  intro n hn hend
  have hend₀ := h.not_ended hend
  cases h with
  | start | resume =>
    -- the new worker is the latest, and the entry holds it
    simp only [List.length_append, List.length_singleton, Nat.add_right_cancel_iff] at hn
    exact .inl (by rw [hn])
  | refuseStart _ hcareful => simpa [hcareful rfl, swapRemove] using hs.held n hn hend₀
  | refuseResume w he hset => simp [ended_of_settled hset hn] at hend₀
  | cancel w he | cleanup w he =>
    rcases hs.held n hn hend₀ with hentry | hmem | hmem | hmem
    · -- the call takes the latest worker's handle with the entry
      rw [he] at hentry
      simp [Option.some.inj hentry]
    · simp [hmem]
    · simp [hmem]
    · simp [hmem]
  | retire w hw =>
    rcases hs.held n hn hend₀ with hentry | hmem | hmem | hmem
    · exact .inl hentry
    · by_cases hwn : w = some n
      · subst hwn
        simp
      · exact .inr (.inl ((List.mem_erase_of_ne (Ne.symm hwn)).mpr hmem))
    · simp [hmem]
    · simp [hmem]
  | reap r hr hr' =>
    rcases hs.held n hn hend₀ with hentry | hmem | hmem | hmem
    · exact .inl hentry
    · exact .inr (.inl hmem)
    · exact .inr (.inr (.inl (mem_erase_of_ended hmem hr' hend₀)))
    · exact .inr (.inr (.inr hmem))
  | shutdownTake r he =>
    rcases hs.held n hn hend₀ with hentry | hmem | hmem | hmem
    · -- the shutdown takes the latest worker to join it
      rw [he] at hentry
      simp [Option.some.inj (Option.some.inj hentry)]
    · simp [hmem]
    · simp [hmem]
    · simp [hmem]
  | shutdownDrain r hr =>
    rcases hs.held n hn hend₀ with hentry | hmem | hmem | hmem
    · exact .inl hentry
    · simp [hmem]
    · by_cases hrn : r = n
      · subst hrn
        simp
      · exact .inr (.inr (.inl ((List.mem_erase_of_ne (Ne.symm hrn)).mpr hmem)))
    · simp [hmem]
  | shutdownJoin r hj hr' =>
    rcases hs.held n hn hend₀ with hentry | hmem | hmem | hmem
    · exact .inl hentry
    · exact .inr (.inl hmem)
    · exact .inr (.inr (.inl hmem))
    · exact .inr (.inr (.inr (mem_erase_of_ended hmem hr' hend₀)))
  | begin k hk | finish k hk => exact hs.held n (by simpa using hn) hend₀

theorem Step.orderly (h : Step true s s') (hs : s.Orderly) : s'.Orderly where
  alone := h.alone hs
  chained := h.chained hs
  held := h.held hs
  retiredOne := h.retiredOne hs
  retiredAlone := h.retiredAlone hs
  retiringOne := h.retiringOne hs
  retiringAlone := h.retiringAlone hs

end Step

theorem Reachable.orderly {s : Lineage} (h : Reachable true s) : s.Orderly := by
  induction h with
  | empty => exact orderly_empty
  | step _ hs ih => exact hs.orderly ih

/-- Of two workers that have begun, the earlier one has ended. -/
theorem Orderly.not_both_working {s : Lineage} (hs : s.Orderly) {i j : Nat} {ti tj : Thread}
    (hij : i < j) (hi : s.threads[i]? = some ti) (hj : s.threads[j]? = some tj)
    (hwi : ti.stage = .working) (hwj : tj.stage = .working) : False := by
  have hend := hs.alone i j tj hij hj (by simp [hwj])
  simp [ended, hi, hwi] at hend

/-- Under careful schedules no two workers of a task id work at once. A worker begins only once
every earlier worker of the id has ended, and each worker joins the one before it unless that
one had ended when it was made. -/
theorem one_worker_at_a_time {s : Lineage} (h : Reachable true s) :
    (∀ (i j : Nat) (ti tj : Thread), s.threads[i]? = some ti → s.threads[j]? = some tj →
      ti.stage = .working → tj.stage = .working → i = j) ∧
    (∀ i j t, i < j → s.threads[j]? = some t → t.stage ≠ .waiting → s.ended i = true) ∧
    (∀ i t, s.threads[i + 1]? = some t → t.joins = some i ∨ s.ended i = true) := by
  have hs := h.orderly
  refine ⟨?_, hs.alone, hs.chained⟩
  intro i j ti tj hi hj hwi hwj
  rcases Nat.lt_trichotomy i j with hij | hij | hij
  · exact (hs.not_both_working hij hi hj hwi hwj).elim
  · exact hij
  · exact (hs.not_both_working hij hj hi hwj hwi).elim

/-- A start after a cancel has retired the worker joins it, and begins once it has ended. -/
theorem one_worker_at_a_time_after_cancel :
    ∃ s, Reachable true s ∧ s.threads = [⟨none, .ended⟩, ⟨some 0, .working⟩] ∧
      (∀ (i j : Nat) (ti tj : Thread), s.threads[i]? = some ti → s.threads[j]? = some tj →
        ti.stage = .working → tj.stage = .working → i = j) ∧
      (∀ i j t, i < j → s.threads[j]? = some t → t.stage ≠ .waiting → s.ended i = true) ∧
      (∀ i t, s.threads[i + 1]? = some t → t.joins = some i ∨ s.ended i = true) := by
  have h₀ : Reachable true empty := .empty
  have h₁ := h₀.step (.start _ rfl (fun _ => ⟨rfl, rfl⟩))
  have h₂ := h₁.step (.begin _ 0 (by decide) rfl rfl)
  have h₃ := h₂.step (.cancel _ (some 0) rfl)
  have h₄ := h₃.step (.retire _ (some 0) (by decide))
  have h₅ := h₄.step (.start _ rfl (fun _ => ⟨rfl, rfl⟩))
  have h₆ := h₅.step (.finish _ 0 (by decide) rfl)
  have h₇ := h₆.step (.begin _ 1 (by decide) rfl rfl)
  exact ⟨_, h₇, rfl, one_worker_at_a_time h₇⟩

/-- Without care, a start between a cancel's taking the entry and its retiring the worker finds
no worker to join, and its worker works beside the cancelled one. -/
theorem start_in_cancel_window_overlaps :
    ∃ s, Reachable false s ∧ s.threads = [⟨none, .working⟩, ⟨none, .working⟩] := by
  have h₀ : Reachable false empty := .empty
  have h₁ := h₀.step (.start _ rfl (fun h => nomatch h))
  have h₂ := h₁.step (.begin _ 0 (by decide) rfl rfl)
  have h₃ := h₂.step (.cancel _ (some 0) rfl)
  have h₄ := h₃.step (.start _ rfl (fun h => nomatch h))
  have h₅ := h₄.step (.begin _ 1 (by decide) rfl rfl)
  exact ⟨_, h₅, rfl⟩

end Lineage

end Succession

end DownloadEngine.Controller
