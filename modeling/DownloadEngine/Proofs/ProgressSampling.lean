import DownloadEngine.Proofs.Binary64Magnitudes
import DownloadEngine.Proofs.EntryChange

/-!
# Progress sampling

A task's tracker turns the sizes it samples into a rate. A sample is taken only when time has
moved on from the baseline, by the interval at least; it then reports the bytes added since the
baseline over the time since it, in doubles, with the time left at that rate, and becomes the
new baseline. A rejected sample changes nothing, and a rebase moves the baseline to the instant
and size it is given.

The rate never divides by zero and is never negative. Over any span a duration can hold it is
zero exactly when no bytes were added, so the time left is unknown exactly when the total is
unknown or nothing was added. Over calls at instants that never go back, samples are taken an
interval apart at least; and a task publishes a progress event exactly when its tracker takes a
sample.

## Main statements

* `Duration.toSeconds_pos`, `rate_not_neg`, `rate_le_zero_iff`: the rate's divisor and sign.
* `Tracker.sample_of_takes`, `Tracker.sample_of_not_takes`: one sample against any baseline.
* `Tracker.takenAt_spaced`: the samples of a run are an interval apart.
* `Controller.Change.tracker_step`: each change of an entry is quiet or one call on its tracker.
* `Controller.Change.run_calls`: a run of changes publishes no more progress than its samples.
* `progress_samples_rate_limited`: the whole contract.
-/

namespace DownloadEngine

open Binary64

/-! ## Seconds and rates -/

namespace Duration

theorem unpack_billion :
    (1000000000 : Float).toModel.unpack =
      .finite .positive (1000000000 * 2 ^ 23) (-23) (by decide) :=
  rfl

/-- A billion as a double has its leading digit thirtieth. -/
theorem billion_magnitude :
    AtLeast 30 (1000000000 : Float).toModel.unpack ∧
      AtMost 30 (1000000000 : Float).toModel.unpack := by
  have hc : Canonical (1000000000 * 2 ^ 23) (-23) := ⟨by decide, by decide, .inl (by decide)⟩
  have ht : Float.Model.totalExponent (1000000000 * 2 ^ 23) (-23) = 30 := by decide
  rw [unpack_billion]
  exact ⟨.inr ⟨_, _, _, rfl, hc, by decide, by omega⟩, ⟨_, _, _, rfl, hc, by decide, by omega⟩⟩

/-- The part of a duration below a second, as a double: zero, or positive and below `2^4`. -/
theorem subsec_magnitude (d : Duration) :
    (d.subsecNanos = 0 ∧
        (d.subsecNanos.toFloat / 1000000000).toModel.unpack = .zero .positive) ∨
      (0 < d.subsecNanos ∧ AtLeast (-29) (d.subsecNanos.toFloat / 1000000000).toModel.unpack ∧
        AtMost 4 (d.subsecNanos.toFloat / 1000000000).toModel.unpack) := by
  rw [unpack_div]
  by_cases h : d.subsecNanos = 0
  · rw [h, unpack_ofNat_zero, store_div_zero billion_magnitude.1]
    exact .inl ⟨rfl, rfl⟩
  · -- fewer than a billion nanoseconds have at most thirty binary digits
    have hlt : d.subsecNanos < 2 ^ 30 := by
      have := Nat.mod_lt d.nanos (show 0 < nanosPerSec by decide)
      simp only [subsecNanos, nanosPerSec] at this ⊢
      omega
    have hL : d.subsecNanos.log2 < 30 := (Nat.log2_lt h).2 hlt
    obtain ⟨hat, hmost⟩ := ofNat_magnitude h
    refine .inr ⟨Nat.pos_of_ne_zero h, ?_, ?_⟩
    · exact (div_atLeast hat billion_magnitude.2 (by omega)).mono (by omega)
    · exact (div_atMost hat (hmost (by omega)) billion_magnitude.1 billion_magnitude.2
        (by omega) (by omega)).mono (by omega)

/-- The whole seconds of a duration, as a double: positive, and within a duration's range
below `2^66`. -/
theorem secs_magnitude {d : Duration} (h : d.secs ≠ 0) :
    AtLeast 1 d.secs.toFloat.toModel.unpack ∧
      (d.nanos ≤ max.nanos → AtMost 66 d.secs.toFloat.toModel.unpack) := by
  obtain ⟨hat, hmost⟩ := ofNat_magnitude h
  refine ⟨hat.mono (by omega), fun hd => ?_⟩
  -- a duration's seconds fit a 64-bit word
  have hlt : d.secs < 2 ^ 64 := by
    simp only [secs, nanosPerSec, max, u64Max] at hd ⊢
    omega
  have hL : d.secs.log2 < 64 := (Nat.log2_lt h).2 hlt
  exact (hmost (by omega)).mono (by omega)

theorem unpack_toSeconds (d : Duration) :
    d.toSeconds.toModel.unpack =
      store (Float.Model.UnpackedFloat.add Float.Model.Format.binary64
        d.secs.toFloat.toModel.unpack (d.subsecNanos.toFloat / 1000000000).toModel.unpack) :=
  unpack_add _ _

theorem secs_eq_zero_iff (d : Duration) : d.secs = 0 ↔ d.nanos = d.subsecNanos := by
  simp only [secs, subsecNanos, nanosPerSec]
  omega

/-- A duration of at least one nanosecond is a positive number of seconds, at least `2^-30`. -/
theorem toSeconds_atLeast {d : Duration} (h : 0 < d.nanos) :
    AtLeast (-29) d.toSeconds.toModel.unpack := by
  rw [unpack_toSeconds]
  by_cases hs : d.secs = 0
  · -- under a second: the seconds are zero and the rest is positive
    have hsub : 0 < d.subsecNanos := by have := (secs_eq_zero_iff d).1 hs; omega
    rw [hs, unpack_ofNat_zero]
    rcases subsec_magnitude d with ⟨h0, -⟩ | ⟨-, hat, -⟩
    · omega
    · rw [add_zero_left (.inr ⟨_, hat⟩)]
      exact hat
  · have hy : (d.subsecNanos.toFloat / 1000000000).toModel.unpack = .zero .positive ∨
        ∃ lo, AtLeast lo (d.subsecNanos.toFloat / 1000000000).toModel.unpack := by
      rcases subsec_magnitude d with ⟨-, h0⟩ | ⟨-, hat, -⟩
      · exact .inl h0
      · exact .inr ⟨_, hat⟩
    exact (add_atLeast (secs_magnitude hs).1 hy).mono (by omega)

/-- A duration of at least one nanosecond is a positive number of seconds: the rate of a sample
never divides by zero. -/
theorem toSeconds_pos {d : Duration} (h : 0 < d.nanos) : 0 < d.toSeconds :=
  zero_lt_of_atLeast (toSeconds_atLeast h)

/-- A duration within range is a finite number of seconds below `2^68`. -/
theorem toSeconds_atMost {d : Duration} (h : 0 < d.nanos) (hd : d.nanos ≤ max.nanos) :
    AtMost 68 d.toSeconds.toModel.unpack := by
  rw [unpack_toSeconds]
  by_cases hs : d.secs = 0
  · have hsub : 0 < d.subsecNanos := by have := (secs_eq_zero_iff d).1 hs; omega
    rw [hs, unpack_ofNat_zero]
    rcases subsec_magnitude d with ⟨h0, -⟩ | ⟨-, hat, hmost⟩
    · omega
    · rw [add_zero_left (.inr ⟨_, hat⟩)]
      exact hmost.mono (by omega)
  · have hy : (d.subsecNanos.toFloat / 1000000000).toModel.unpack = .zero .positive ∨
        AtMost 4 (d.subsecNanos.toFloat / 1000000000).toModel.unpack := by
      rcases subsec_magnitude d with ⟨-, h0⟩ | ⟨-, -, hmost⟩
      · exact .inl h0
      · exact .inr hmost
    exact (add_atMost ((secs_magnitude hs).2 hd) hy (by omega)).mono (by omega)

end Duration

/-- A count of bytes over a duration of at least one nanosecond is never a negative rate. -/
theorem rate_not_neg (n : Nat) {d : Duration} (h : 0 < d.nanos) :
    ¬ n.toFloat / d.toSeconds < 0 := by
  rw [lt_zero_iff, unpack_div]
  have hn : n.toFloat.toModel.unpack = .zero .positive ∨
      AtLeast (n.log2 + 1) n.toFloat.toModel.unpack := by
    by_cases hn : n = 0
    · subst hn
      exact .inl unpack_ofNat_zero
    · exact .inr (ofNat_magnitude hn).1
  exact not_negative_store_div hn (Duration.toSeconds_atLeast h)

/-- Over a duration of at least one nanosecond within a duration's range, the rate of a count of
bytes is at most zero exactly when the count is zero. -/
theorem rate_le_zero_iff (n : Nat) {d : Duration} (h : 0 < d.nanos)
    (hd : d.nanos ≤ Duration.max.nanos) : n.toFloat / d.toSeconds ≤ 0 ↔ n = 0 := by
  constructor
  · intro hle
    by_cases hn : n = 0
    · exact hn
    -- a count of at least one over fewer than `2^68` seconds stays above the subnormals
    have hat := div_atLeast (ofNat_magnitude hn).1 (Duration.toSeconds_atMost h hd)
      (by omega)
    exact absurd hle (not_le_zero_of_atLeast (x := n.toFloat / d.toSeconds) hat)
  · rintro rfl
    apply le_zero_of_unpack_zero
    rw [unpack_div, unpack_ofNat_zero, store_div_zero (Duration.toSeconds_atLeast h)]

/-- The time left is unknown exactly when the total is, or the rate is not positive. -/
theorem secondsLeft_eq_none_iff (downloaded total : Nat) (rate : Float) :
    secondsLeft downloaded total rate = none ↔ total = 0 ∨ rate ≤ 0 := by
  unfold secondsLeft
  by_cases ht : total = 0
  · simp [ht]
  · by_cases hr : rate ≤ 0 <;> simp [ht, hr]

/-! ## One sample -/

namespace Tracker

/-- The rate a sample of `downloaded` bytes at `now` reports against the baseline: the bytes
added since it, none when fewer, over the time since it. -/
def rateAt (t : Tracker) (now : Instant) (downloaded : Nat) : Float :=
  (downloaded - t.lastSize).toFloat / (Duration.mk (now - t.lastTime)).toSeconds

/-- A sample at `now` is taken: time has moved on from the baseline, by the interval at least. -/
def Takes (t : Tracker) (now : Instant) : Prop :=
  t.lastTime < now ∧ t.interval.nanos ≤ now - t.lastTime

instance (t : Tracker) (now : Instant) : Decidable (t.Takes now) :=
  inferInstanceAs (Decidable (_ ∧ _))

theorem Takes.elapsed_pos {t : Tracker} {now : Instant} (h : t.Takes now) :
    0 < (Duration.mk (now - t.lastTime)).nanos := by
  show 0 < now - t.lastTime
  simp only [Takes, Instant] at *
  omega

/-- A sample that is taken reports the rate and the time left at it, and becomes the baseline. -/
theorem sample_of_takes {t : Tracker} {now : Instant} (h : t.Takes now) (downloaded total : Nat) :
    t.sample now downloaded total =
      (some ⟨t.rateAt now downloaded, secondsLeft downloaded total (t.rateAt now downloaded)⟩,
        ⟨t.interval, now, downloaded⟩) := by
  have hn : ¬ ((Duration.mk (now - t.lastTime)).nanos = 0 ∨
      (Duration.mk (now - t.lastTime)).nanos < t.interval.nanos) := by
    obtain ⟨h₁, h₂⟩ := h
    show ¬ (now - t.lastTime = 0 ∨ now - t.lastTime < t.interval.nanos)
    simp only [Instant] at *
    omega
  simp only [sample, hn, if_false]
  rfl

/-- A sample that is not taken reports nothing and leaves the tracker as it was. -/
theorem sample_of_not_takes {t : Tracker} {now : Instant} (h : ¬ t.Takes now)
    (downloaded total : Nat) : t.sample now downloaded total = (none, t) := by
  have hn : (Duration.mk (now - t.lastTime)).nanos = 0 ∨
      (Duration.mk (now - t.lastTime)).nanos < t.interval.nanos := by
    show now - t.lastTime = 0 ∨ now - t.lastTime < t.interval.nanos
    simp only [Takes, Instant] at *
    omega
  simp only [sample, hn, if_true]

/-! ## Runs -/

/-- A call on a tracker, at an instant: a sample of the bytes on disk and the total, or a move of
the baseline to a size. -/
inductive Call where
  | sample (now : Instant) (downloaded total : Nat)
  | rebase (now : Instant) (size : Nat)

/-- The instant a call is made at. -/
def Call.time : Call → Instant
  | .sample now _ _ => now
  | .rebase now _ => now

/-- Makes one call: the rate a sample takes, if it is taken, and the tracker after it. -/
def call (t : Tracker) : Call → Option Throughput × Tracker
  | .sample now downloaded total => t.sample now downloaded total
  | .rebase now size => (none, t.rebase now size)

/-- Makes the calls in turn; the instants of the samples taken, in order. -/
def takenAt : Tracker → List Call → List Instant
  | _, [] => []
  | t, c :: cs => ((t.call c).1.map fun _ => c.time).toList ++ takenAt (t.call c).2 cs

theorem call_interval (t : Tracker) (c : Call) : (t.call c).2.interval = t.interval := by
  cases c with
  | sample now downloaded total =>
    by_cases h : t.Takes now
    · simp only [call, sample_of_takes h]
    · simp only [call, sample_of_not_takes h]
  | rebase now size => rfl

/-- A call leaves the baseline's instant where it was or moves it to its own. -/
theorem call_lastTime (t : Tracker) (c : Call) :
    (t.call c).2.lastTime = t.lastTime ∨ (t.call c).2.lastTime = c.time := by
  cases c with
  | sample now downloaded total =>
    by_cases h : t.Takes now
    · simp only [call, sample_of_takes h, Call.time, or_true]
    · simp only [call, sample_of_not_takes h, true_or]
  | rebase now size => exact .inr rfl

/-- A call takes a rate only as a sample taken against the baseline, which it then becomes. -/
theorem takes_of_call {t : Tracker} {c : Call} (h : (t.call c).1.isSome) :
    t.Takes c.time ∧ (t.call c).2.lastTime = c.time := by
  cases c with
  | sample now downloaded total =>
    by_cases ht : t.Takes now
    · show t.Takes now ∧ (t.sample now downloaded total).2.lastTime = now
      rw [sample_of_takes ht]
      exact ⟨ht, rfl⟩
    · simp [call, sample_of_not_takes ht] at h
  | rebase now size => simp [call] at h

/-- An instant a call adds to a run is its own, at a sample taken against the baseline, which
the sample then becomes. -/
theorem takes_of_mem_call {t : Tracker} {c : Call} {b : Instant}
    (h : b ∈ ((t.call c).1.map fun _ => c.time).toList) :
    c.time = b ∧ t.Takes b ∧ (t.call c).2.lastTime = b := by
  obtain ⟨rfl, hsome⟩ : c.time = b ∧ (t.call c).1.isSome := by
    cases hs : (t.call c).1 <;> simp_all
  exact ⟨rfl, takes_of_call hsome⟩

/-- Over calls at instants that never go back and never before the baseline, every sample taken
is later than the baseline by the interval at least. -/
theorem takenAt_after {t : Tracker} {cs : List Call} (hafter : ∀ c ∈ cs, t.lastTime ≤ c.time)
    (hsorted : cs.Pairwise (fun a b => a.time ≤ b.time)) :
    ∀ b ∈ t.takenAt cs, t.lastTime < b ∧ t.interval.nanos ≤ b - t.lastTime := by
  induction cs generalizing t with
  | nil => simp [takenAt]
  | cons c cs ih =>
    intro b hb
    have hc := hafter c (List.mem_cons_self ..)
    obtain ⟨hcs, hrest⟩ := List.pairwise_cons.1 hsorted
    -- the baseline after `c` is no earlier than before it, and no later than what follows
    have hlast := call_lastTime t c
    have hafter' : ∀ c' ∈ cs, (t.call c).2.lastTime ≤ c'.time := by
      intro c' hc'
      have := hcs c' hc'
      have := hafter c' (List.mem_cons_of_mem _ hc')
      simp only [Instant] at *
      omega
    rcases List.mem_append.1 hb with hb | hb
    · exact (takes_of_mem_call hb).2.1
    · have := ih hafter' hrest b hb
      rw [call_interval] at this
      simp only [Instant] at *
      omega

/-- Over calls at instants that never go back, the samples taken are in order of time and an
interval apart at least, whatever the rebases between them. -/
theorem takenAt_spaced (t : Tracker) {cs : List Call}
    (hsorted : cs.Pairwise (fun a b => a.time ≤ b.time)) :
    (t.takenAt cs).Pairwise (fun a b => a < b ∧ t.interval.nanos ≤ b - a) := by
  induction cs generalizing t with
  | nil => exact List.Pairwise.nil
  | cons c cs ih =>
    obtain ⟨hcs, hrest⟩ := List.pairwise_cons.1 hsorted
    have hlater := ih (t.call c).2 hrest
    rw [call_interval] at hlater
    refine List.pairwise_append.2 ⟨?_, hlater, ?_⟩
    · cases (t.call c).1 <;> simp
    · intro a ha b hb
      -- after a sample taken at `a`, the baseline is `a`, and every later sample is measured
      -- from a baseline no earlier
      obtain ⟨rfl, -, hbase⟩ := takes_of_mem_call ha
      have := takenAt_after (t := (t.call c).2) (fun c' hc' => hbase ▸ hcs c' hc') hrest b hb
      rw [call_interval, hbase] at this
      exact this

end Tracker

/-! ## Progress events -/

namespace Controller

/-- Whether an event reports progress. -/
def Event.isProgress : Event → Bool
  | .progress _ => true
  | _ => false

namespace Entry

/-- The progress events waiting in an entry's outbox, oldest first. -/
def progressEvents (e : Entry) : List Event := e.outbox.filter Event.isProgress

theorem progressEvents_publish_status (e : Entry) (task : Task) :
    (e.publish (.statusChanged task)).progressEvents = e.progressEvents := by
  simp [progressEvents, publish, Event.isProgress]

/-- The change from `e` to `e'` leaves the tracker alone and publishes no progress: the progress
events left are among those before, in order. -/
structure Quiet (e e' : Entry) : Prop where
  tracker : e'.tracker = e.tracker
  progress : e'.progressEvents.Sublist e.progressEvents

theorem Quiet.refl (e : Entry) : Quiet e e := ⟨rfl, List.Sublist.refl _⟩

theorem Quiet.trans {e₁ e₂ e₃ : Entry} (h₁ : Quiet e₁ e₂) (h₂ : Quiet e₂ e₃) : Quiet e₁ e₃ :=
  ⟨h₂.tracker.trans h₁.tracker, h₂.progress.trans h₁.progress⟩

/-- A new record for the task, its status change published. -/
theorem quiet_update (e : Entry) (task : Task) : Quiet e { e with task } :=
  ⟨rfl, List.Sublist.refl _⟩

theorem quiet_update_publish (e : Entry) (task task' : Task) :
    Quiet e ({ e with task }.publish (.statusChanged task')) :=
  ⟨rfl, by rw [progressEvents_publish_status]; exact List.Sublist.refl _⟩

theorem quiet_transition (e : Entry) (next : Status) : Quiet e (e.transition next).2 := by
  rw [transition_eq]
  split
  · exact Quiet.refl e
  · split
    · exact quiet_update_publish e _ _
    · exact Quiet.refl e

/-- The deciding section of a completion records the bytes, and publishes the record when it
completes the task. -/
theorem quiet_completeLocked (e : Entry) (bytes : Nat) : Quiet e (e.completeLocked bytes).2 := by
  unfold completeLocked
  by_cases hd : e.task.status ≠ .downloading
  · rw [if_pos hd]
    exact Quiet.refl e
  · rw [if_neg hd]
    cases (e.task.setSizes bytes e.task.totalSize).markCompleted with
    | mk b task =>
      cases b
      · exact quiet_update e task
      · exact quiet_update_publish e task task

theorem quiet_failLocked (e : Entry) (message : String) : Quiet e (e.failLocked message).2 := by
  unfold failLocked
  cases e.task.markFailed message with
  | mk b task =>
    cases b
    · exact Quiet.refl e
    · exact quiet_update_publish e task task

/-- The change from `e` to `e'` is the call `c` on the tracker: the tracker becomes what the call
leaves, and progress is published only when the call takes a sample, then one event, of the new
record. -/
structure Calls (e e' : Entry) (c : Tracker.Call) : Prop where
  tracker : e'.tracker = (e.tracker.call c).2
  published : (e.tracker.call c).1.isSome → e'.outbox = e.outbox ++ [.progress e'.task]
  kept : (e.tracker.call c).1 = none → e'.progressEvents.Sublist e.progressEvents

/-- A call publishes at most one progress event, and only when it takes a sample. -/
theorem Calls.length_progressEvents_le {e e' : Entry} {c : Tracker.Call} (h : Calls e e' c) :
    e'.progressEvents.length ≤
      e.progressEvents.length + ((e.tracker.call c).1.map fun _ => c.time).toList.length := by
  cases hs : (e.tracker.call c).1 with
  | none =>
    have := (h.kept hs).length_le
    simpa using this
  | some th =>
    have hout := h.published (by simp [hs])
    simp [progressEvents, hout, List.filter_cons, Event.isProgress]

theorem calls_seedDownloaded (e : Entry) (bytes : Nat) (now : Instant) :
    Calls e (e.seedDownloaded bytes now) (.rebase now bytes) :=
  ⟨rfl, by simp [Tracker.call], fun _ => List.Sublist.refl _⟩

theorem calls_restartSampling (e : Entry) (now : Instant) :
    Calls e (e.restartSampling now) (.rebase now e.task.downloadedSize) :=
  ⟨rfl, by simp [Tracker.call], fun _ => List.Sublist.refl _⟩

/-- Recording progress is quiet unless the task is downloading; then it samples the tracker at
the sizes it records, and publishes the task's progress exactly when the sample is taken. -/
theorem recordProgress_step (e : Entry) (downloaded total : Nat) (now : Instant) :
    Quiet e (e.recordProgress downloaded total now) ∨
      ∃ c, Calls e (e.recordProgress downloaded total now) c := by
  by_cases hd : e.task.status ≠ .downloading
  · rw [recordProgress_of_ne e downloaded total now hd]
    exact .inl (Quiet.refl e)
  · right
    unfold recordProgress
    rw [if_neg hd]
    dsimp only
    generalize e.task.setSizes downloaded (if total > 0 then total else e.task.totalSize) = task
    refine ⟨.sample now task.downloadedSize task.totalSize, ?_⟩
    cases hs : e.tracker.sample now task.downloadedSize task.totalSize with
    | mk sampled tracker =>
      have hcall : e.tracker.call (.sample now task.downloadedSize task.totalSize) =
          (sampled, tracker) := hs
      cases sampled with
      | none => exact ⟨by rw [hcall], by simp [hcall], fun _ => List.Sublist.refl _⟩
      | some th => exact ⟨by rw [hcall]; rfl, fun _ => rfl, by simp [hcall]⟩

end Entry

namespace Change

/-- Every change of an entry is quiet, or one call on its tracker that publishes progress
exactly when it takes a sample. -/
theorem tracker_step {e e' : Entry} (h : Change e e') :
    Entry.Quiet e e' ∨ ∃ c, Entry.Calls e e' c := by
  cases h with
  | transition next _ => exact .inl (Entry.quiet_transition e next)
  | completeLocked bytes _ => exact .inl (Entry.quiet_completeLocked e bytes)
  | failLocked message => exact .inl (Entry.quiet_failLocked e message)
  | seedDownloaded bytes now _ => exact .inr ⟨_, Entry.calls_seedDownloaded e bytes now⟩
  | restartSampling now => exact .inr ⟨_, Entry.calls_restartSampling e now⟩
  | recordProgress downloaded total now => exact Entry.recordProgress_step e downloaded total now
  | setProbe | setDestination | chooseMode | retoken | rehandle => exact .inl ⟨rfl, List.Sublist.refl _⟩
  | collect => exact .inl ⟨rfl, by simp [Entry.progressEvents]⟩

end Change

end Controller

namespace Tracker

/-- The tracker after the calls, in turn. -/
def after : Tracker → List Call → Tracker
  | t, [] => t
  | t, c :: cs => after (t.call c).2 cs

end Tracker

namespace Controller.Change

open Relation

/-- Any run of changes of an entry makes calls on its tracker, and publishes no more progress
events than those calls take samples. -/
theorem run_calls {e e' : Entry} (h : ReflTransGen Change e e') :
    ∃ cs, e'.tracker = e.tracker.after cs ∧
      e'.progressEvents.length ≤ e.progressEvents.length + (e.tracker.takenAt cs).length := by
  induction h using ReflTransGen.head_induction_on with
  | refl => exact ⟨[], rfl, by simp [Tracker.takenAt]⟩
  | @head e e₁ hstep _ ih =>
    obtain ⟨cs, hafter, hcount⟩ := ih
    rcases hstep.tracker_step with hq | ⟨c, hc⟩
    · -- a quiet change: the same calls, from the same tracker, and no more progress
      have := hq.progress.length_le
      rw [hq.tracker] at hafter hcount
      exact ⟨cs, hafter, by omega⟩
    · -- one call: it heads the calls, and publishes no more progress than it takes samples
      refine ⟨c :: cs, by rw [hafter, hc.tracker]; rfl, ?_⟩
      have := hc.length_progressEvents_le
      rw [hc.tracker] at hcount
      simp only [Tracker.takenAt, List.length_append]
      omega

end Controller.Change

/-! ## The sampling contract -/

/-- A tracker's samples are well defined and rate limited. Against any baseline, a sample is
taken exactly when time has moved on from it by the interval at least. A sample not taken
changes nothing. One taken becomes the baseline and reports the bytes added over the time
since: the divisor is positive and the rate never negative, and over any span a duration holds
the time left is unknown exactly when the total is or no bytes were added. Over calls at
instants that never go back, the samples are an interval apart. A task's entry publishes
progress only through its tracker: each change is quiet or one call on it, publishing one
progress event exactly when the call takes a sample, so no run of changes publishes more
progress than its calls take samples. -/
theorem progress_samples_rate_limited :
    (∀ (t : Tracker) (now : Instant) (downloaded total : Nat),
      ((t.sample now downloaded total).1.isSome ↔
          t.lastTime < now ∧ t.interval.nanos ≤ now - t.lastTime) ∧
      ((t.sample now downloaded total).1 = none → (t.sample now downloaded total).2 = t) ∧
      ∀ th, (t.sample now downloaded total).1 = some th →
        (t.sample now downloaded total).2 = { t with lastTime := now, lastSize := downloaded } ∧
        th.bytesPerSec =
          (downloaded - t.lastSize).toFloat / (Duration.mk (now - t.lastTime)).toSeconds ∧
        0 < (Duration.mk (now - t.lastTime)).toSeconds ∧ ¬ th.bytesPerSec < 0 ∧
        (now - t.lastTime ≤ Duration.max.nanos →
          (th.etaSecs = none ↔ total = 0 ∨ downloaded ≤ t.lastSize))) ∧
    (∀ (t : Tracker) (cs : List Tracker.Call), cs.Pairwise (fun a b => a.time ≤ b.time) →
      (t.takenAt cs).Pairwise (fun a b => a < b ∧ t.interval.nanos ≤ b - a)) ∧
    (∀ e e' : Controller.Entry, Controller.Change e e' →
      e.Quiet e' ∨ ∃ c, e.Calls e' c) ∧
    (∀ e e' : Controller.Entry, Relation.ReflTransGen Controller.Change e e' →
      ∃ cs, e'.tracker = e.tracker.after cs ∧
        e'.progressEvents.length ≤ e.progressEvents.length + (e.tracker.takenAt cs).length) := by
  refine ⟨fun t now downloaded total => ?_, fun t _ h => t.takenAt_spaced h,
    fun _ _ h => h.tracker_step, fun _ _ h => Controller.Change.run_calls h⟩
  by_cases ht : t.Takes now
  · rw [Tracker.sample_of_takes ht]
    have hpos := ht.elapsed_pos
    refine ⟨by simpa [Tracker.Takes] using ht, by simp, ?_⟩
    rintro th ⟨⟩
    refine ⟨rfl, rfl, Duration.toSeconds_pos hpos, rate_not_neg _ hpos, fun hd => ?_⟩
    -- no bytes added is a zero rate, and a zero rate leaves the time unknown
    rw [secondsLeft_eq_none_iff, Tracker.rateAt, rate_le_zero_iff _ hpos hd,
      Nat.sub_eq_zero_iff_le]
  · rw [Tracker.sample_of_not_takes ht]
    exact ⟨by simpa [Tracker.Takes] using ht, fun _ => rfl, by simp⟩

end DownloadEngine
