import DownloadEngine.Proofs.Registry

/-!
# Worker handles

Every thread the engine makes has a handle, numbered by the spawn that made it. The engine holds
a handle in its task's entry, or in the list of retired workers once the task is removed, until
the handle is joined: by the next run of the same id, by a cleanup once its thread has exited,
or by a shutdown. `Engine.Supervised` says that every handle made so far is held in exactly one
place or has been joined exactly once.

A start takes its id's retired worker off the list before it asks the system for a thread, and
a resume takes the handle out of the entry; the handle travels with the new thread, whose run
joins it first. When the system refuses the thread, the handle goes with it: held nowhere and
never joined. Every call whose thread the system gives keeps the engine supervised.

## Main statements

* `swapRemove_perm`, `takeRetired_perm`: taking a retired worker off the list loses exactly it.
* `takeRetired_snd_eq_iff`: the list changes exactly when the id has a retired worker.
* `Engine.Supervised.perform`: a call whose thread the system gives keeps the engine
  supervised; `Engine.supervised_performAll` over every sequence of such calls.
* `Engine.startSpawning_refused_drops`, `Engine.resumeSpawning_refused_drops`: a refused thread
  takes the handle it was to join with it; `Engine.refused_restart_unsupervised`: a start, a
  cancel and a refused restart of one id get there from any supervised engine.
* `Engine.handles_supervised_unless_refused`: the engine stays supervised, and a shutdown joins
  every handle made, exactly as long as the system refuses no thread.
-/

namespace DownloadEngine.Controller

/-! ## The retired list -/

/-- Removing the element at `i`, the last taking its place, loses exactly that element. -/
theorem swapRemove_perm {α : Type} [DecidableEq α] {l : List α} {i : Nat} (h : i < l.length) :
    (swapRemove l i ++ [l[i]]).Perm l := by
  rcases List.eq_nil_or_concat l with rfl | ⟨init, last, rfl⟩
  · simp at h
  simp only [List.concat_eq_append] at h ⊢
  have hlast : (init ++ [last]).getLast? = some last := by simp
  simp only [swapRemove, hlast]
  rw [List.length_append, List.length_singleton] at h
  by_cases hi : i < init.length
  · -- the last element moves to `i`, and the one at `i` goes to the end
    rw [List.set_append_left i last hi, List.dropLast_concat, List.getElem_append_left hi]
    rw [List.perm_iff_count]
    intro b
    have hmem : (init[i] == b) = true → 1 ≤ init.count b := fun hb => by
      rw [beq_iff_eq] at hb
      exact List.count_pos_iff.2 (hb ▸ List.getElem_mem hi)
    simp only [List.count_append, List.count_set hi, List.count_singleton]
    split <;> split <;> simp_all
  · -- the element at `i` is the last one
    have hi' : i = init.length := by omega
    subst hi'
    simp

/-- What taking an id's retired worker off the list does to the handles: the list after, and
the handle taken, are the list before. -/
theorem takeRetired_perm (retired : List (String × Nat)) (taskId : String) :
    ((takeRetired retired taskId).2.map (·.2) ++ (takeRetired retired taskId).1.toList).Perm
      (retired.map (·.2)) := by
  unfold takeRetired
  cases hi : retired.findIdx? (·.1 == taskId) with
  | none => simp
  | some i =>
    obtain ⟨hlt, -, -⟩ := List.findIdx?_eq_some_iff_getElem.1 hi
    have hperm := (swapRemove_perm hlt).map (·.2)
    simpa [List.getElem?_eq_getElem hlt] using hperm

/-- Taking an id's retired worker off the list changes the list exactly when the id has one. -/
theorem takeRetired_snd_eq_iff (retired : List (String × Nat)) (taskId : String) :
    (takeRetired retired taskId).2 = retired ↔ taskId ∉ retired.map (·.1) := by
  unfold takeRetired
  cases hi : retired.findIdx? (·.1 == taskId) with
  | none =>
    have hnone := List.findIdx?_eq_none_iff.1 hi
    simp only [true_iff, List.mem_map, not_exists, not_and]
    intro x hx hx'
    simpa [hx'] using hnone x hx
  | some i =>
    obtain ⟨hlt, hat, -⟩ := List.findIdx?_eq_some_iff_getElem.1 hi
    have hmem : taskId ∈ retired.map (·.1) :=
      List.mem_map.2 ⟨retired[i], List.getElem_mem hlt, by simpa using hat⟩
    simp only [hmem, not_true_eq_false, iff_false]
    -- the list loses an element
    intro heq
    have hlen := (swapRemove_perm hlt).length_eq
    rw [heq, List.length_append, List.length_singleton] at hlen
    omega

/-- An id with no retired worker takes nothing off the list. -/
theorem takeRetired_of_not_mem {retired : List (String × Nat)} {taskId : String}
    (h : taskId ∉ retired.map (·.1)) : takeRetired retired taskId = (none, retired) := by
  have hsnd := (takeRetired_snd_eq_iff retired taskId).2 h
  have hperm := takeRetired_perm retired taskId
  rw [hsnd] at hperm
  cases hfst : (takeRetired retired taskId).1 with
  | none => exact Prod.ext hfst hsnd
  | some w =>
    rw [hfst] at hperm
    have := hperm.length_eq
    simp at this

/-! ## Held handles -/

namespace Engine

section Workers

/-- The handles of some entries keep their order and split over a concatenation. -/
@[simp] theorem workersOf_append (es fs : List Entry) :
    workersOf (es ++ fs) = workersOf es ++ workersOf fs := by
  simp [workersOf]

@[simp] theorem workersOf_cons (e : Entry) (es : List Entry) :
    workersOf (e :: es) = (e.worker.map (e.task.taskId, ·)).toList ++ workersOf es := by
  cases h : e.worker <;> simp [workersOf, h]

@[simp] theorem workersOf_nil : workersOf [] = [] := rfl

/-- Putting an entry in the place of entries of its id that hold its handle keeps the handles. -/
theorem workersOf_map_put {es : List Entry} {x : Entry}
    (h : ∀ old ∈ es, old.task.taskId = x.task.taskId → old.worker = x.worker) :
    workersOf (es.map fun old => if old.task.taskId == x.task.taskId then x else old) =
      workersOf es := by
  induction es with
  | nil => rfl
  | cons old rest ih =>
    rw [List.map_cons, workersOf_cons, workersOf_cons,
      ih fun o ho => h o (List.mem_cons_of_mem _ ho)]
    by_cases hid : old.task.taskId = x.task.taskId
    · rw [if_pos (by simpa using hid), hid, h old List.mem_cons_self hid]
    · rw [if_neg (by simpa using hid)]

/-- Entries with distinct ids: one of them, with the others before and after it, none of which
has its id. -/
theorem split_of_nodup {es : List Entry} (hn : (es.map (·.task.taskId)).Nodup) {e : Entry}
    (he : e ∈ es) :
    ∃ pre post, es = pre ++ e :: post ∧ ∀ x ∈ pre ++ post, x.task.taskId ≠ e.task.taskId := by
  obtain ⟨pre, post, rfl⟩ := List.append_of_mem he
  refine ⟨pre, post, rfl, fun x hx hid => ?_⟩
  rw [List.map_append, List.map_cons] at hn
  have hnot := (List.nodup_middle.1 hn)
  rw [List.nodup_cons] at hnot
  exact hnot.1 (by
    rw [← List.map_append]
    exact List.mem_map.2 ⟨x, hx, hid⟩)

theorem map_put_of_split {pre post : List Entry} {e x : Entry}
    (hx : x.task.taskId = e.task.taskId)
    (hothers : ∀ y ∈ pre ++ post, y.task.taskId ≠ e.task.taskId) :
    (pre ++ e :: post).map (fun old => if old.task.taskId == x.task.taskId then x else old) =
      pre ++ x :: post := by
  have hkeep : ∀ l : List Entry, (∀ y ∈ l, y.task.taskId ≠ e.task.taskId) →
      l.map (fun old => if old.task.taskId == x.task.taskId then x else old) = l := by
    intro l hl
    exact (List.map_congr_left fun y hy => if_neg (by simpa [hx] using hl y hy)).trans
      (List.map_id l)
  rw [List.map_append, List.map_cons, if_pos (by simp [hx]),
    hkeep pre fun y hy => hothers y (List.mem_append_left _ hy),
    hkeep post fun y hy => hothers y (List.mem_append_right _ hy)]

theorem filter_of_split {pre post : List Entry} {e : Entry}
    (hothers : ∀ y ∈ pre ++ post, y.task.taskId ≠ e.task.taskId) :
    (pre ++ e :: post).filter (·.task.taskId != e.task.taskId) = pre ++ post := by
  have hkeep : ∀ l : List Entry, (∀ y ∈ l, y.task.taskId ≠ e.task.taskId) →
      l.filter (·.task.taskId != e.task.taskId) = l := by
    intro l hl
    exact List.filter_eq_self.2 fun y hy => by simpa using hl y hy
  rw [List.filter_append, List.filter_cons_of_neg (by simp),
    hkeep pre fun y hy => hothers y (List.mem_append_left _ hy),
    hkeep post fun y hy => hothers y (List.mem_append_right _ hy)]

end Workers

variable {σ : Type}

/-- The handles the engine holds: those in its entries, then the retired ones. -/
def held (eng : Engine σ) : List Nat := (workersOf eng.entries ++ eng.retired).map (·.2)

/-- The engine supervises its threads: every handle made so far is held in exactly one place or
has been joined exactly once, and no other handle is held or joined. -/
def Supervised (eng : Engine σ) : Prop := (eng.held ++ eng.joined).Perm (List.range eng.spawned)

/-- The system gives the call the thread it asks for, if it asks for one. -/
def Call.Given : Call → Prop
  | .start _ _ spawn => spawn = .ok ()
  | .resume _ _ spawn => spawn = .ok ()
  | _ => True

/-- The engine some calls lead to, in order. -/
def performAll (eng : Engine σ) (calls : List Call) : Engine σ := calls.foldl perform eng

@[simp] theorem Entry.transition_worker (e : Entry) (next : Status) :
    (e.transition next).2.worker = e.worker := by
  unfold Entry.transition Entry.publish
  split
  · rfl
  · split <;> rfl

/-- A run keeps every handle where the engine put it, provided the entries of its id hold the
handle of the run's entry. -/
theorem run_handles (eng : Engine σ) (now : Moment) (e : Entry)
    (h : ∀ old ∈ eng.entries, old.task.taskId = e.task.taskId → old.worker = e.worker) :
    (eng.run now e).held = eng.held ∧ (eng.run now e).joined = eng.joined ∧
      (eng.run now e).spawned = eng.spawned := by
  have hid := runTask_taskId eng.setup eng.net now (eng.forest.signal e.token) e eng.world
  unfold run
  generalize runTask eng.setup eng.net now (eng.forest.signal e.token) e eng.world = ran at hid ⊢
  obtain ⟨e', world⟩ := ran
  have hid' : e'.task.taskId = e.task.taskId := hid
  refine ⟨?_, rfl, rfl⟩
  show ((workersOf (eng.entries.map fun old =>
      if old.task.taskId == e'.task.taskId then { e' with outbox := [], worker := e.worker }
      else old)) ++ eng.retired).map (·.2) = _
  rw [workersOf_map_put (x := { e' with outbox := [], worker := e.worker })
    (fun old ho hk => h old ho (hk.trans hid'))]
  rfl

/-- Putting an entry in its id's place leaves every entry of that id holding its handle. -/
theorem putEntry_worker (eng : Engine σ) (x : Entry) :
    ∀ old ∈ (eng.putEntry x).entries, old.task.taskId = x.task.taskId → old.worker = x.worker := by
  intro old hold hid
  obtain ⟨o, -, rfl⟩ := List.mem_map.1 hold
  by_cases ho : o.task.taskId = x.task.taskId
  · rw [if_pos (by simpa using ho)]
  · rw [if_neg (by simpa using ho)] at hid ⊢
    exact absurd hid ho

section Steps

variable {eng : Engine σ}

theorem Supervised.run (hs : eng.Supervised) (now : Moment) (e : Entry)
    (h : ∀ old ∈ eng.entries, old.task.taskId = e.task.taskId → old.worker = e.worker) :
    (eng.run now e).Supervised := by
  obtain ⟨hheld, hjoined, hspawned⟩ := run_handles eng now e h
  unfold Supervised
  rw [hheld, hjoined, hspawned]
  exact hs

/-- A start whose thread is given: the new handle goes to the new entry, and its run joins the
retired worker of its id. -/
theorem Supervised.start (hs : eng.Supervised) (now : Moment) (req : StartRequest) :
    (eng.start now req).1.Supervised := by
  unfold Engine.start
  cases hc : eng.checkStart req with
  | error err => exact hs
  | ok u =>
    -- the id is free, so the new entry is the only one of its id
    have hfree : ∀ old ∈ eng.entries, old.task.taskId ≠ req.taskId := by
      intro old hold hid
      have hnone := checkStart_ok hc
      simp only [ entry?, List.find?_eq_none] at hnone
      exact hnone old hold (by simp [hid])
    have hperm := takeRetired_perm eng.retired req.taskId
    generalize eng.forest.newToken = minted
    obtain ⟨forest, token⟩ := minted
    generalize takeRetired eng.retired req.taskId = taken at hperm
    obtain ⟨predecessor, retired⟩ := taken
    dsimp only
    refine Supervised.run ?_ now _ ?_
    · unfold Supervised held at hs ⊢
      refine List.perm_iff_count.2 fun b => ?_
      have h₁ := List.perm_iff_count.1 hs b
      have h₂ := List.perm_iff_count.1 hperm b
      simp only [workersOf_append, workersOf_cons, workersOf_nil, Option.map_some,
        Option.toList_some, List.map_append, List.map_cons, List.map_nil, List.count_append,
        List.range_succ, List.count_cons, List.count_nil] at h₁ h₂ ⊢
      omega
    · intro old hold hid
      rcases List.mem_append.1 hold with hold | hold
      · exact absurd hid (hfree old hold)
      · rw [List.mem_singleton.1 hold]

theorem Supervised.pause (hs : eng.Supervised) (taskId : String) :
    (eng.pause taskId).1.Supervised := by
  unfold Engine.pause
  split
  · split <;> exact hs
  · exact hs

/-- A resume whose thread is given: the entry's handle is joined by the new run, whose handle
the entry holds instead. -/
theorem Supervised.resume (hs : eng.Supervised) (hn : eng.ids.Nodup) (now : Moment)
    (taskId : String) : (eng.resume now taskId).1.Supervised := by
  unfold Engine.resume
  split
  · next e hfound =>
    obtain ⟨hmem, hid⟩ := entry?_eq_some hfound
    obtain ⟨pre, post, hsplit, hothers⟩ := split_of_nodup hn hmem
    split
    · exact hs
    · split
      · exact hs
      · next e' hmoved =>
        have hworker : e'.worker = e.worker := by
          rw [← Entry.transition_worker e .downloading, hmoved]
        have hid' : e'.task.taskId = e.task.taskId := by
          rw [← Entry.transition_taskId e .downloading, hmoved]
        generalize eng.forest.newToken = minted
        obtain ⟨forest, token⟩ := minted
        dsimp only
        refine Supervised.run ?_ now _ (putEntry_worker _ _)
        unfold Supervised held at hs ⊢
        show ((workersOf (eng.entries.map fun old =>
            if old.task.taskId == e'.task.taskId then { e' with token, worker := some eng.spawned }
            else old) ++ eng.retired).map (·.2) ++ (eng.joined ++ e'.worker.toList)).Perm
          (List.range (eng.spawned + 1))
        rw [hsplit, map_put_of_split (x := { e' with token, worker := some eng.spawned }) hid' hothers]
        rw [hsplit] at hs
        refine List.perm_iff_count.2 fun b => ?_
        have h₁ := List.perm_iff_count.1 hs b
        simp only [hworker, workersOf_append, workersOf_cons, Option.map_some, Option.toList_some,
          List.map_append, List.map_cons, List.count_append, List.range_succ, List.count_cons,
          List.count_nil] at h₁ ⊢
        cases hw : e.worker <;> simp [hw] at h₁ ⊢ <;> omega
  · exact hs

/-- A cancel retires the handle its task's entry held. -/
theorem Supervised.cancel (hs : eng.Supervised) (hn : eng.ids.Nodup) (taskId : String) :
    (eng.cancel taskId).1.Supervised := by
  unfold Engine.cancel
  split
  · next e hfound =>
    obtain ⟨hmem, hid⟩ := entry?_eq_some hfound
    obtain ⟨pre, post, hsplit, hothers⟩ := split_of_nodup hn hmem
    unfold Supervised held at hs ⊢
    dsimp only
    rw [hsplit, ← hid, filter_of_split hothers, Entry.transition_worker]
    rw [hsplit] at hs
    refine List.perm_iff_count.2 fun b => ?_
    have h₁ := List.perm_iff_count.1 hs b
    simp only [workersOf_append, workersOf_cons, List.map_append, List.count_append] at h₁ ⊢
    cases hw : e.worker <;> simp [hw] at h₁ ⊢ <;> omega
  · exact hs

/-- A cleanup retires the handles of the tasks it removes and joins every retired worker. -/
theorem Supervised.cleanup (hs : eng.Supervised) : eng.cleanup.1.Supervised := by
  unfold Supervised held at hs ⊢
  simp only [Engine.cleanup, List.partition_eq_filter_filter, List.append_nil, List.map_append,
    Function.comp_def]
  -- the removed and the kept entries hold the handles the entries held
  have hsplit : (workersOf (eng.entries.filter (·.task.status.isTerminal)) ++
      workersOf (eng.entries.filter fun e => !e.task.status.isTerminal)).Perm
        (workersOf eng.entries) := by
    rw [← workersOf_append]
    exact (List.filter_append_perm _ _).filterMap _
  refine List.perm_iff_count.2 fun b => ?_
  have h₁ := List.perm_iff_count.1 hs b
  have h₂ := List.perm_iff_count.1 (hsplit.map (·.2)) b
  simp only [List.map_append, List.count_append] at h₁ h₂ ⊢
  omega

/-- A shutdown joins every handle the engine holds. -/
theorem Supervised.shutdown (hs : eng.Supervised) : eng.shutdown.Supervised := by
  unfold Supervised held at hs ⊢
  have hnone : workersOf (eng.entries.map ({ · with worker := none })) = [] := by
    simp [workersOf, List.filterMap_map]
  simp only [Engine.shutdown, hnone, List.nil_append, List.map_nil]
  refine List.perm_iff_count.2 fun b => ?_
  have h₁ := List.perm_iff_count.1 hs b
  simp only [List.map_append, List.count_append] at h₁ ⊢
  omega

end Steps

/-- Every call whose thread the system gives keeps the engine supervised. -/
theorem Supervised.perform {eng : Engine σ} (hs : eng.Supervised) (hn : eng.ids.Nodup)
    {c : Call} (hc : c.Given) : (eng.perform c).Supervised := by
  cases c with
  | start now req spawn =>
    cases hc
    exact hs.start now req
  | pause taskId => exact hs.pause taskId
  | resume now taskId spawn =>
    cases hc
    exact hs.resume hn now taskId
  | cancel taskId => exact hs.cancel hn taskId
  | cleanup => exact hs.cleanup
  | shutdown => exact hs.shutdown

theorem supervised_new (setup : Setup) (net : Network σ) (world : World σ) :
    (Engine.new setup net world).Supervised := by
  simp [Supervised, held, Engine.new]

/-- Along any sequence of calls whose threads the system gives, from a new engine, every handle
the engine made is held in exactly one place or has been joined exactly once. -/
theorem supervised_performAll (setup : Setup) (net : Network σ) (world : World σ)
    (calls : List Call) (hc : ∀ c ∈ calls, c.Given) :
    ((Engine.new setup net world).performAll calls).Supervised := by
  -- the invariant carried along the calls: supervised, with no id registered twice
  suffices h : ∀ (eng : Engine σ), eng.Supervised → eng.ids.Nodup →
      (eng.performAll calls).Supervised ∧ (eng.performAll calls).ids.Nodup from
    (h _ (supervised_new setup net world) (by simp [ids, Engine.new])).1
  induction calls with
  | nil => exact fun eng hs hn => ⟨hs, hn⟩
  | cons c rest ih =>
    intro eng hs hn
    exact ih (fun c' hc' => hc c' (List.mem_cons_of_mem _ hc')) (eng.perform c)
      (hs.perform hn (hc c List.mem_cons_self)) (nodup_perform hn c)

/-! ## A refused thread -/

/-- A handle made but neither held nor joined leaves the engine unsupervised. -/
theorem not_supervised_of_dropped {eng : Engine σ} {w : Nat} (hw : w < eng.spawned)
    (hheld : w ∉ eng.held) (hjoined : w ∉ eng.joined) : ¬ eng.Supervised := by
  intro hs
  have := hs.symm.subset (List.mem_range.2 hw)
  rcases List.mem_append.1 this with h | h
  · exact hheld h
  · exact hjoined h

/-- A start whose checks pass and whose thread the system refuses takes its id's retired worker
off the list and drops it: in a supervised engine that handle is then held nowhere, and was
never joined. -/
theorem startSpawning_refused_drops {eng : Engine σ} (hs : eng.Supervised) (now : Moment)
    {req : StartRequest} (hc : eng.checkStart req = .ok ()) (io : IoError) {w : Nat}
    (hw : (takeRetired eng.retired req.taskId).1 = some w) :
    w < (eng.startSpawning now req (.error io)).1.spawned ∧
      w ∉ (eng.startSpawning now req (.error io)).1.held ∧
      w ∉ (eng.startSpawning now req (.error io)).1.joined := by
  have hstart : (eng.startSpawning now req (.error io)).1 =
      { eng with retired := (takeRetired eng.retired req.taskId).2 } := by
    simp [startSpawning, hc]
  have hperm := takeRetired_perm eng.retired req.taskId
  rw [hw] at hperm
  unfold Supervised held at hs
  rw [hstart]
  simp only [held, ← List.count_eq_zero]
  -- `w` was held once, in the retired list, and never joined; the list no longer holds it
  have h₁ := List.perm_iff_count.1 hs w
  have h₂ := List.perm_iff_count.1 hperm w
  simp only [List.map_append, List.count_append, List.count_range, Option.toList_some,
    List.count_singleton_self] at h₁ h₂ ⊢
  split at h₁ <;> refine ⟨?_, ?_, ?_⟩ <;> omega

/-- A resume of a paused task whose thread the system refuses drops the handle its entry held:
in a supervised engine with distinct ids that handle is then held nowhere, and was never
joined. -/
theorem resumeSpawning_refused_drops {eng : Engine σ} (hs : eng.Supervised) (hn : eng.ids.Nodup)
    (now : Moment) {taskId : String} {e : Entry} (he : eng.entry? taskId = some e)
    (hp : e.task.status = .paused) (io : IoError) {w : Nat} (hw : e.worker = some w) :
    w < (eng.resumeSpawning now taskId (.error io)).1.spawned ∧
      w ∉ (eng.resumeSpawning now taskId (.error io)).1.held ∧
      w ∉ (eng.resumeSpawning now taskId (.error io)).1.joined := by
  obtain ⟨failed, htask, hnone, hentries, hretired, hjoined, hspawned, -⟩ :=
    resumeSpawning_error_eq he hp now io
  obtain ⟨hmem, -⟩ := entry?_eq_some he
  obtain ⟨pre, post, hsplit, hothers⟩ := split_of_nodup hn hmem
  have hid : failed.task.taskId = e.task.taskId := by simp [htask]
  -- the failed entry takes the paused one's place, holding no handle
  have hput : (eng.putEntry failed).entries = pre ++ failed :: post := by
    show eng.entries.map _ = _
    rw [hsplit]
    exact map_put_of_split hid hothers
  unfold Supervised held at hs
  rw [hsplit] at hs
  simp only [held, hentries, hput, hretired, hjoined, hspawned, ← List.count_eq_zero]
  have h₁ := List.perm_iff_count.1 hs w
  simp only [workersOf_append, workersOf_cons, hw, hnone, List.map_append, List.count_append,
    List.count_range, Option.map_some, Option.map_none, Option.toList_some, Option.toList_none,
    List.map_cons, List.nil_append, List.singleton_append] at h₁ ⊢
  simp only [List.count_cons_self] at h₁
  split at h₁ <;> refine ⟨?_, ?_, ?_⟩ <;> omega

/-- An id with a retired worker takes one off the list. -/
theorem takeRetired_fst_isSome {retired : List (String × Nat)} {taskId : String}
    (h : taskId ∈ retired.map (·.1)) : (takeRetired retired taskId).1.isSome := by
  unfold takeRetired
  cases hi : retired.findIdx? (·.1 == taskId) with
  | none =>
    obtain ⟨x, hx, rfl⟩ := List.mem_map.1 h
    have hnone := List.findIdx?_eq_none_iff.1 hi x hx
    simp at hnone
  | some i =>
    obtain ⟨hlt, -, -⟩ := List.findIdx?_eq_some_iff_getElem.1 hi
    simp [List.getElem?_eq_getElem hlt]

/-! ## A refused restart -/

/-- The checks read only the configuration and the entry of the id. -/
theorem checkStart_congr {eng eng' : Engine σ} {req : StartRequest} (hs : eng'.setup = eng.setup)
    (he : Engine.entry? eng' req.taskId = Engine.entry? eng req.taskId) :
    eng'.checkStart req = eng.checkStart req := by
  unfold checkStart
  rw [hs, he]

/-- A run leaves every entry of its id holding the handle of the run's entry. -/
theorem run_worker (eng : Engine σ) (now : Moment) (e : Entry) :
    (eng.run now e).setup = eng.setup ∧
      ∀ old ∈ (eng.run now e).entries, old.task.taskId = e.task.taskId → old.worker = e.worker := by
  have hid := runTask_taskId eng.setup eng.net now (eng.forest.signal e.token) e eng.world
  unfold run
  generalize runTask eng.setup eng.net now (eng.forest.signal e.token) e eng.world = ran at hid ⊢
  obtain ⟨e', world⟩ := ran
  have hid' : e'.task.taskId = e.task.taskId := hid
  refine ⟨rfl, fun old hold hk => ?_⟩
  exact putEntry_worker eng { e' with outbox := [], worker := e.worker } old hold (hk.trans hid'.symm)

/-- After a start whose checks pass, the entry of its id holds the handle of the thread made for
it, and the configuration is as before. -/
theorem start_worker {eng : Engine σ} (now : Moment) {req : StartRequest}
    (hc : eng.checkStart req = .ok ()) :
    (eng.start now req).1.setup = eng.setup ∧ ∀ e ∈ (eng.start now req).1.entries,
      e.task.taskId = req.taskId → e.worker = some eng.spawned := by
  unfold Engine.start
  rw [hc]
  generalize eng.forest.newToken = minted
  obtain ⟨forest, token⟩ := minted
  generalize takeRetired eng.retired req.taskId = taken
  obtain ⟨predecessor, retired⟩ := taken
  dsimp only
  exact run_worker _ now _

/-- A cancel of a registered task retires the handle its entry held and leaves no entry of its
id; the configuration is as before. -/
theorem cancel_of_entry {eng : Engine σ} {taskId : String} {e : Entry}
    (he : Engine.entry? eng taskId = some e) :
    (eng.cancel taskId).1.retired = eng.retired ++ (e.worker.map (taskId, ·)).toList ∧
      Engine.entry? (eng.cancel taskId).1 taskId = none ∧ (eng.cancel taskId).1.setup = eng.setup := by
  unfold Engine.cancel
  rw [he]
  refine ⟨by simp, ?_, rfl⟩
  -- the entries left are those of other ids
  refine List.find?_eq_none.2 fun x hx => ?_
  simpa using (List.mem_filter.1 hx).2

/-- A supervised engine loses a thread when a task is started, cancelled and started again under
the same id with its thread refused: the cancelled task's worker, retired, was taken off the list
for the refused thread, and is held nowhere and never joined. -/
theorem refused_restart_unsupervised {eng : Engine σ} (hs : eng.Supervised) (hn : eng.ids.Nodup)
    (now now' : Moment) {req : StartRequest} (hc : eng.checkStart req = .ok ()) (io : IoError) :
    ¬ (eng.performAll [.start now req (.ok ()), .cancel req.taskId,
      .start now' req (.error io)]).Supervised := by
  simp only [performAll, List.foldl_cons, List.foldl_nil, perform, startSpawning_ok]
  -- the start, given its thread, registers the id with the new handle
  have hs₁ := hs.start now req
  have hn₁ := nodup_perform hn (.start now req (.ok ()))
  obtain ⟨hsetup₁, hworker⟩ := start_worker now hc
  have hreg : req.taskId ∈ (eng.start now req).1.ids := by
    rcases start_cases eng now req with ⟨err, hfail, -⟩ | ⟨-, -, hids⟩
    · rw [hc] at hfail
      cases hfail
    · simp [hids]
  obtain ⟨e, he⟩ := Option.isSome_iff_exists.1 ((isSome_entry?_iff _ _).2 hreg)
  obtain ⟨hmem, hid⟩ := entry?_eq_some he
  -- the cancel retires that handle, and the id is free again
  obtain ⟨hretired, hnone, hsetup₂⟩ := cancel_of_entry he
  rw [hworker e hmem hid] at hretired
  have hs₂ := hs₁.cancel hn₁ req.taskId
  have hc₂ : ((eng.start now req).1.cancel req.taskId).1.checkStart req = .ok () := by
    rw [checkStart_congr (hsetup₂.trans hsetup₁) (hnone.trans (checkStart_ok hc).symm), hc]
  have htaken : (takeRetired ((eng.start now req).1.cancel req.taskId).1.retired req.taskId).1.isSome :=
    takeRetired_fst_isSome (by simp [hretired])
  obtain ⟨w, hw⟩ := Option.isSome_iff_exists.1 htaken
  -- the refused restart drops it
  obtain ⟨hlt, hheld, hjoined⟩ := startSpawning_refused_drops hs₂ now' hc₂ io hw
  exact not_supervised_of_dropped hlt hheld hjoined

/-- After a shutdown of a supervised engine every handle made has been joined, once. -/
theorem Supervised.shutdown_joins {eng : Engine σ} (hs : eng.Supervised) :
    eng.shutdown.joined.Perm (List.range eng.shutdown.spawned) := by
  have hheld : eng.shutdown.held = [] := by
    simp [held, Engine.shutdown, workersOf, List.filterMap_map]
  have h := hs.shutdown
  unfold Supervised at h
  rwa [hheld, List.nil_append] at h

/-- Worker supervision. Along every sequence of calls whose threads the system gives, from a new
engine, every handle made so far is held in exactly one place, a task's entry or the retired
list, or has been joined exactly once, and a shutdown then joins every handle made. A thread the
system refuses breaks this: from a new engine, a start of a request the engine accepts, a cancel
of it and a restart with its thread refused lose the first worker, held nowhere and never joined;
and in every supervised engine a resume of a paused task whose thread is refused loses the handle
its entry held. -/
theorem handles_supervised_unless_refused (setup : Setup) (net : Network σ) (world : World σ) :
    (∀ calls : List Call, (∀ c ∈ calls, c.Given) →
      ((Engine.new setup net world).performAll calls).Supervised ∧
        ((Engine.new setup net world).performAll (calls ++ [.shutdown])).joined.Perm
          (List.range ((Engine.new setup net world).performAll (calls ++ [.shutdown])).spawned)) ∧
    (∀ (now now' : Moment) (req : StartRequest) (io : IoError),
      (Engine.new setup net world).checkStart req = .ok () →
      ¬ ((Engine.new setup net world).performAll [.start now req (.ok ()), .cancel req.taskId,
        .start now' req (.error io)]).Supervised) ∧
    (∀ (eng : Engine σ) (now : Moment) (taskId : String) (e : Entry) (io : IoError) (w : Nat),
      eng.Supervised → eng.ids.Nodup → Engine.entry? eng taskId = some e →
        e.task.status = .paused → e.worker = some w →
        ¬ (eng.resumeSpawning now taskId (.error io)).1.Supervised) := by
  have hnew : (Engine.new setup net world).ids.Nodup := by simp [ids, Engine.new]
  refine ⟨fun calls hc => ⟨supervised_performAll setup net world calls hc, ?_⟩,
    fun now now' req io hc =>
      refused_restart_unsupervised (supervised_new setup net world) hnew now now' hc io,
    fun eng now taskId e io w hs hn he hp hw => ?_⟩
  · simp only [performAll, List.foldl_append, List.foldl_cons, List.foldl_nil, perform]
    exact (supervised_performAll setup net world calls hc).shutdown_joins
  · obtain ⟨hlt, hheld, hjoined⟩ := resumeSpawning_refused_drops hs hn now he hp io hw
    exact not_supervised_of_dropped hlt hheld hjoined

end Engine

end DownloadEngine.Controller
