import DownloadEngine.Proofs.WorkerHandles

/-!
# Starting a task

A start checks its request in a fixed order: the address must read as a download source, the
destination directory must lie in the project, so must the destination file when a name is
given, and the id must be free. Then it names the thread for the task's run after the task and
asks the system for that thread.

A start that fails a check answers the first failure and leaves the engine as it was. A start
whose thread the system refuses answers the refusal and leaves the registry, the events and the
files as they were; but the retired worker of its id, taken off the list for the new thread
before the system answered, goes with the refused thread, so the retired list is as before
exactly when no retired worker has that id. A start whose thread cannot take its name faults
instead: a
thread's name is a C string, and only a NUL character encodes to a zero byte, so this is exactly
a start whose checks pass and whose task id holds a NUL character. A start that succeeds
registers exactly its task, after every task there was, leaves every other task's entry alone,
and publishes the task's record as created: preparing, with the request's address, project,
directory, file name and parallel flag.

## Main statements

* `Text.zero_mem_utf8_iff`: only a NUL character encodes to a zero byte.
* `Engine.checkStart_eq_error_iff`, `Engine.checkStart_eq_ok_iff`: what the checks answer.
* `Engine.nameThread_eq_ok_iff`: which names a thread can take.
* `Engine.start_reports_first_failure`: a start answers its first failure, changing nothing but
  the retired list and that only on a refused thread, faults exactly on a NUL character in an id
  that passed the checks, and otherwise registers exactly its task as created.
-/

namespace DownloadEngine

namespace Text

/-- Only a NUL character has a zero byte in its encoding: every byte of a longer form has its
top bit set. -/
theorem zero_mem_utf8Bytes_iff (c : Char) : (0 : UInt8) ∈ utf8Bytes c ↔ c = '\x00' := by
  have hv : c.toNat = c.val.toNat := rfl
  have hlt : c.val.toNat < 0x110000 := by
    have h := c.valid
    simp [UInt32.isValidChar, Nat.isValidChar] at h
    omega
  have hc : c = '\x00' ↔ c.val.toNat = 0 :=
    ⟨fun h => h ▸ rfl, fun h => Char.ext (UInt32.toNat_inj.1 (by simpa using h))⟩
  rw [hc]
  dsimp only [utf8Bytes]
  -- one branch per length of the encoding; a byte is zero when its value is a multiple of 256
  split
  · simp [← UInt8.toNat_inj]
    omega
  · split
    · simp [← UInt8.toNat_inj]
      omega
    · split <;> simp [← UInt8.toNat_inj] <;> omega

theorem zero_mem_utf8_iff (s : String) : (0 : UInt8) ∈ utf8 s ↔ '\x00' ∈ s.toList := by
  simp [utf8, zero_mem_utf8Bytes_iff]

end Text

namespace Controller.Engine

variable {σ : Type}

/-- A request whose address reads as a download source and whose destination directory, and
destination file when a name is given, lie in the project under `root`. -/
structure Accepted (root : String) (req : StartRequest) : Prop where
  address : ∃ src, Source.parse req.url = .ok src
  directory : ∃ dir, Project.resolve root req.projectId req.destinationPath = .ok dir
  file : ∀ name, req.filename = some name →
    ∃ path, Project.resolve root req.projectId (joinRel req.destinationPath name) = .ok path

/-- The first check a request fails, in the order of the checks. -/
inductive CheckFailure (eng : Engine σ) (req : StartRequest) : EngineError → Prop
  /-- The address does not read as a download source. -/
  | address {e : EngineError} : Source.parse req.url = .error e → CheckFailure eng req e
  /-- The address reads, and the destination directory leaves the project. -/
  | directory {src : Source} {pe : PathError} : Source.parse req.url = .ok src →
      Project.resolve eng.setup.config.projectsRoot req.projectId req.destinationPath = .error pe →
      CheckFailure eng req (.pathRejected pe)
  /-- The address and the directory pass, and the named destination file leaves the project. -/
  | file {src : Source} {dir name : String} {pe : PathError} : Source.parse req.url = .ok src →
      Project.resolve eng.setup.config.projectsRoot req.projectId req.destinationPath = .ok dir →
      req.filename = some name →
      Project.resolve eng.setup.config.projectsRoot req.projectId
        (joinRel req.destinationPath name) = .error pe →
      CheckFailure eng req (.pathRejected pe)
  /-- Every path passes, and the id is registered. -/
  | duplicate : Accepted eng.setup.config.projectsRoot req → (eng.entry? req.taskId).isSome →
      CheckFailure eng req (.duplicateTask req.taskId)

/-- A failed check is what the checks answer. -/
theorem CheckFailure.checkStart_eq {eng : Engine σ} {req : StartRequest} {err : EngineError}
    (h : CheckFailure eng req err) : eng.checkStart req = .error err := by
  cases h with
  | address hs => simp [Engine.checkStart, hs, bind, Except.bind]
  | directory hs hd => simp [Engine.checkStart, hs, hd, bind, Except.bind, Except.mapError]
  | file hs hd hf hfile =>
    simp [Engine.checkStart, hs, hd, hf, hfile, bind, Except.bind, Except.mapError]
  | duplicate hacc hreg =>
    obtain ⟨src, hs⟩ := hacc.address
    obtain ⟨dir, hd⟩ := hacc.directory
    cases hf : req.filename with
    | none =>
      simp [Engine.checkStart, hs, hd, hf, hreg, bind, Except.bind, Except.mapError, throw,
        throwThe, MonadExceptOf.throw]
    | some name =>
      obtain ⟨path, hfile⟩ := hacc.file name hf
      simp [Engine.checkStart, hs, hd, hf, hfile, hreg, bind, Except.bind, Except.mapError, throw,
        throwThe, MonadExceptOf.throw]

/-- The checks answer their first failure, or pass when every path passes and the id is
free. -/
theorem checkStart_cases (eng : Engine σ) (req : StartRequest) :
    (∃ err, CheckFailure eng req err) ∨
      (Accepted eng.setup.config.projectsRoot req ∧ eng.entry? req.taskId = none) := by
  cases hs : Source.parse req.url with
  | error e => exact .inl ⟨e, .address hs⟩
  | ok src =>
    cases hd : Project.resolve eng.setup.config.projectsRoot req.projectId req.destinationPath with
    | error pe => exact .inl ⟨_, .directory hs hd⟩
    | ok dir =>
      -- the file is checked only when a name is given
      have hfile : (∃ name pe, req.filename = some name ∧ Project.resolve
          eng.setup.config.projectsRoot req.projectId (joinRel req.destinationPath name) = .error pe) ∨
          ∀ name, req.filename = some name → ∃ path, Project.resolve
            eng.setup.config.projectsRoot req.projectId (joinRel req.destinationPath name) = .ok path := by
        cases hf : req.filename with
        | none => exact .inr fun name h => nomatch h
        | some name =>
          cases hr : Project.resolve eng.setup.config.projectsRoot req.projectId
              (joinRel req.destinationPath name) with
          | error pe => exact .inl ⟨name, pe, rfl, hr⟩
          | ok path => exact .inr fun n h => ⟨path, by cases h; exact hr⟩
      rcases hfile with ⟨name, pe, hf, hr⟩ | hfile
      · exact .inl ⟨_, .file hs hd hf hr⟩
      · have hacc : Accepted eng.setup.config.projectsRoot req := ⟨⟨src, hs⟩, ⟨dir, hd⟩, hfile⟩
        cases he : eng.entry? req.taskId with
        | none => exact .inr ⟨hacc, rfl⟩
        | some e => exact .inl ⟨_, .duplicate hacc (by simp [he])⟩

theorem checkStart_eq_ok_iff (eng : Engine σ) (req : StartRequest) :
    eng.checkStart req = .ok () ↔
      Accepted eng.setup.config.projectsRoot req ∧ eng.entry? req.taskId = none := by
  constructor
  · intro h
    rcases checkStart_cases eng req with ⟨err, hfail⟩ | hpass
    · rw [hfail.checkStart_eq] at h
      cases h
    · exact hpass
  · rintro ⟨hacc, hfree⟩
    obtain ⟨src, hs⟩ := hacc.address
    obtain ⟨dir, hd⟩ := hacc.directory
    cases hf : req.filename with
    | none => simp [checkStart, hs, hd, hf, hfree, bind, Except.bind, Except.mapError, pure,
        Except.pure]
    | some name =>
      obtain ⟨path, hfile⟩ := hacc.file name hf
      simp [checkStart, hs, hd, hf, hfile, hfree, bind, Except.bind, Except.mapError, pure,
        Except.pure]

theorem checkStart_eq_error_iff (eng : Engine σ) (req : StartRequest) (err : EngineError) :
    eng.checkStart req = .error err ↔ CheckFailure eng req err := by
  constructor
  · intro h
    rcases checkStart_cases eng req with ⟨err', hfail⟩ | hpass
    · rw [hfail.checkStart_eq] at h
      cases h
      exact hfail
    · rw [(checkStart_eq_ok_iff eng req).2 hpass] at h
      cases h
  · exact CheckFailure.checkStart_eq

/-- A thread takes exactly the names with no NUL character. -/
theorem nameThread_eq_ok_iff (name : String) : nameThread name = .ok () ↔ '\x00' ∉ name.toList := by
  rw [← Text.zero_mem_utf8_iff]
  dsimp only [nameThread]
  split <;> simp [*]

/-- A worker's name holds a NUL character exactly when its task id does. -/
theorem nul_mem_workerName_iff (taskId : String) :
    '\x00' ∈ (workerName taskId).toList ↔ '\x00' ∈ taskId.toList := by
  simp [workerName]

/-- A run changes only its own task's entry. -/
theorem entry?_run_of_ne (eng : Engine σ) (now : Moment) (e : Entry) {taskId : String}
    (h : e.task.taskId ≠ taskId) : Engine.entry? (eng.run now e) taskId = eng.entry? taskId := by
  have hid := runTask_taskId eng.setup eng.net now (eng.forest.signal e.token) e eng.world
  unfold run
  generalize runTask eng.setup eng.net now (eng.forest.signal e.token) e eng.world = ran at hid ⊢
  obtain ⟨e', world⟩ := ran
  have hid' : e'.task.taskId = e.task.taskId := hid
  show Engine.entry? (eng.putEntry { e' with outbox := [], worker := e.worker }) taskId = _
  rw [entry?_putEntry]
  exact if_neg (show ¬ e'.task.taskId = taskId by rw [hid']; exact h)

/-- A run appends the events its task published. -/
theorem events_run (eng : Engine σ) (now : Moment) (e : Entry) :
    ∃ rest, (eng.run now e).events = eng.events ++ rest := by
  unfold run
  exact ⟨_, rfl⟩

/-- A start that succeeds registers exactly its task after the others, leaves every other
entry alone, and publishes the task's record as created before anything its run publishes. -/
theorem start_registers (eng : Engine σ) (now : Moment) (req : StartRequest)
    (hc : eng.checkStart req = .ok ()) :
    (eng.start now req).2 = .ok req.taskId ∧
      (eng.start now req).1.ids = eng.ids ++ [req.taskId] ∧
      (∀ taskId, taskId ≠ req.taskId →
        Engine.entry? (eng.start now req).1 taskId = eng.entry? taskId) ∧
      ∃ rest, (eng.start now req).1.events = eng.events ++
        Event.statusChanged (Task.new req.taskId req.url req.projectId req.destinationPath
          req.filename req.concurrent now.secs) :: rest := by
  rcases start_cases eng now req with ⟨err, hfail, -⟩ | ⟨-, hans, hids⟩
  · rw [hc] at hfail
    cases hfail
  refine ⟨hans, hids, fun taskId hne => ?_, ?_⟩
  · unfold start
    rw [hc]
    dsimp only
    rw [entry?_run_of_ne _ now _ (Ne.symm hne)]
    -- the appended entry is not the one looked up
    simp only [List.find?_append, entry?]
    simp [Task.new, Ne.symm hne]
  · unfold start
    rw [hc]
    dsimp only
    obtain ⟨rest, hrest⟩ := events_run _ now
      (⟨Task.new req.taskId req.url req.projectId req.destinationPath req.filename req.concurrent
        now.secs, none, none, Tracker.start eng.setup.config.progressInterval now 0,
        eng.forest.newToken.2, [], some eng.spawned⟩ : Entry)
    exact ⟨rest, by rw [hrest]; simp⟩

section StartWorker

variable (now : Moment) {eng : Engine σ} {req : StartRequest} (spawn : Except IoError Unit)

/-- A start whose checks fail answers the first failure and changes nothing. -/
theorem startWorker_of_failed {err : EngineError} (hc : eng.checkStart req = .error err) :
    eng.startWorker now req spawn = .ok (eng, .error err) := by
  simp [startWorker, hc]

/-- A start whose checks pass faults when its task id holds a NUL character. -/
theorem startWorker_of_nul (hc : eng.checkStart req = .ok ()) (hn : '\x00' ∈ req.taskId.toList) :
    ∃ f, eng.startWorker now req spawn = .error f := by
  have hname : nameThread (workerName req.taskId) ≠ .ok () := fun h =>
    ((nameThread_eq_ok_iff _).1 h) ((nul_mem_workerName_iff _).2 hn)
  cases hf : nameThread (workerName req.taskId) with
  | error f => exact ⟨f, by simp [startWorker, hc, hf]⟩
  | ok u => exact absurd hf hname

/-- A start whose checks pass and whose thread can take its name does what the system's
answer says. -/
theorem startWorker_of_named (hc : eng.checkStart req = .ok ()) (hn : '\x00' ∉ req.taskId.toList) :
    eng.startWorker now req spawn = .ok (eng.startSpawning now req spawn) := by
  have hname : nameThread (workerName req.taskId) = .ok () :=
    (nameThread_eq_ok_iff _).2 (by rwa [nul_mem_workerName_iff])
  simp [startWorker, hc, hname]

variable {now spawn}

/-- A start whose checks pass and whose thread the system refuses answers the refusal and
changes nothing but the retired list, which loses the worker it handed to the thread. -/
theorem startSpawning_of_refused (hc : eng.checkStart req = .ok ()) (io : IoError) :
    eng.startSpawning now req (.error io) =
      ({ eng with retired := (takeRetired eng.retired req.taskId).2 }, .error (.io io)) := by
  simp [startSpawning, hc]

variable (now eng req spawn) in
/-- A start fails a check, faults on its thread's name, has its thread refused, or is given
the thread and runs. -/
theorem startWorker_cases :
    (∃ err, eng.checkStart req = .error err ∧
      eng.startWorker now req spawn = .ok (eng, .error err)) ∨
    (eng.checkStart req = .ok () ∧ '\x00' ∈ req.taskId.toList ∧
      ∃ f, eng.startWorker now req spawn = .error f) ∨
    (eng.checkStart req = .ok () ∧ '\x00' ∉ req.taskId.toList ∧
      ∃ io, spawn = .error io ∧ eng.startWorker now req spawn =
        .ok ({ eng with retired := (takeRetired eng.retired req.taskId).2 }, .error (.io io))) ∨
    (eng.checkStart req = .ok () ∧ '\x00' ∉ req.taskId.toList ∧ spawn = .ok () ∧
      eng.startWorker now req spawn = .ok (eng.start now req)) := by
  cases hc : eng.checkStart req with
  | error err => exact .inl ⟨err, rfl, startWorker_of_failed now spawn hc⟩
  | ok _ =>
    by_cases hn : '\x00' ∈ req.taskId.toList
    · exact .inr (.inl ⟨rfl, hn, startWorker_of_nul now spawn hc hn⟩)
    have hnamed := startWorker_of_named now spawn hc hn
    cases spawn with
    | error io =>
      rw [startSpawning_of_refused hc] at hnamed
      exact .inr (.inr (.inl ⟨rfl, hn, io, rfl, hnamed⟩))
    | ok _ => exact .inr (.inr (.inr ⟨rfl, hn, rfl, hnamed⟩))

/-- A start answers an error exactly when a check fails, the error being the first failing
check and the engine left as it was, or when the checks pass, the thread can take its name and
the system refuses it, the engine losing only the retired worker of the id. -/
theorem startWorker_eq_refusal_iff (eng' : Engine σ) (err : EngineError) :
    eng.startWorker now req spawn = .ok (eng', .error err) ↔
      (CheckFailure eng req err ∧ eng' = eng) ∨
        (Accepted eng.setup.config.projectsRoot req ∧ eng.entry? req.taskId = none ∧
          '\x00' ∉ req.taskId.toList ∧ ∃ io, spawn = .error io ∧ err = .io io ∧
            eng' = { eng with retired := (takeRetired eng.retired req.taskId).2 }) := by
  -- both sides read off the checks' answer
  rw [← checkStart_eq_error_iff, ← and_assoc, ← checkStart_eq_ok_iff]
  rcases startWorker_cases now eng req spawn with
    ⟨e, hc, h⟩ | ⟨hc, hn, f, h⟩ | ⟨hc, hn, io, rfl, h⟩ | ⟨hc, hn, rfl, h⟩
  · simp [h, hc, eq_comm, and_comm]
  · simp [h, hc, hn]
  · simp [h, hc, hn, eq_comm, and_comm]
  · -- a start the system gave a thread answers its id
    have hans := (start_registers eng now req hc).1
    rw [h, hc]
    constructor
    · intro h'
      rw [Except.ok.inj h'] at hans
      cases hans
    · rintro (⟨h', -⟩ | ⟨-, -, io, h', -⟩) <;> cases h'

/-- A refused start leaves the registry, the events and the files as they were, and the retired
list exactly when a check failed or no retired worker has the id. -/
theorem startWorker_refusal_keeps {eng' : Engine σ} {err : EngineError}
    (h : eng.startWorker now req spawn = .ok (eng', .error err)) :
    eng'.entries = eng.entries ∧ eng'.events = eng.events ∧ eng'.world = eng.world ∧
      (eng'.retired = eng.retired ↔
        CheckFailure eng req err ∨ req.taskId ∉ eng.retired.map (·.1)) := by
  rcases (startWorker_eq_refusal_iff eng' err).1 h with ⟨hfail, rfl⟩ | ⟨hacc, hfree, -, io, -, rfl, rfl⟩
  · exact ⟨rfl, rfl, rfl, iff_of_true rfl (.inl hfail)⟩
  · -- the checks passed, so no check failed and the list keeps its worker only if it had none
    have hc : eng.checkStart req = .ok () := (checkStart_eq_ok_iff eng req).2 ⟨hacc, hfree⟩
    have hnot : ¬ CheckFailure eng req (.io io) := fun hf => by
      rw [← checkStart_eq_error_iff, hc] at hf
      cases hf
    refine ⟨rfl, rfl, rfl, ?_⟩
    rw [takeRetired_snd_eq_iff]
    exact ⟨.inr, fun h' => h'.resolve_left hnot⟩

/-- A start faults exactly when its checks pass and its task id holds a NUL character. -/
theorem startWorker_faults_iff :
    (∃ f, eng.startWorker now req spawn = .error f) ↔
      Accepted eng.setup.config.projectsRoot req ∧ eng.entry? req.taskId = none ∧
        '\x00' ∈ req.taskId.toList := by
  rw [← and_assoc, ← checkStart_eq_ok_iff]
  rcases startWorker_cases now eng req spawn with
    ⟨e, hc, h⟩ | ⟨hc, hn, f, h⟩ | ⟨-, hn, io, -, h⟩ | ⟨-, hn, -, h⟩
  · simp [h, hc]
  · exact iff_of_true ⟨f, h⟩ ⟨hc, hn⟩
  · simp [h, hn]
  · simp [h, hn]

/-- A start that answers an id is one the system gave a thread: it registers exactly its task
after the others, leaves every other entry alone, and publishes the task's record as created. -/
theorem startWorker_registers {eng' : Engine σ} {taskId : String}
    (h : eng.startWorker now req spawn = .ok (eng', .ok taskId)) :
    taskId = req.taskId ∧ spawn = .ok () ∧ eng'.ids = eng.ids ++ [taskId] ∧
      (∀ other, other ≠ taskId → Engine.entry? eng' other = eng.entry? other) ∧
      ∃ t rest, eng'.events = eng.events ++ Event.statusChanged t :: rest ∧
        t.taskId = taskId ∧ t.status = .preparing ∧ t.url = req.url ∧
        t.projectId = req.projectId ∧ t.destinationPath = req.destinationPath ∧
        t.filename = req.filename ∧ t.concurrent = req.concurrent := by
  rcases startWorker_cases now eng req spawn with
    ⟨e, -, h'⟩ | ⟨-, -, f, h'⟩ | ⟨-, -, io, -, h'⟩ | ⟨hc, -, rfl, h'⟩ <;> rw [h'] at h
  -- a failed check, a fault and a refusal answer no id
  · cases h
  · cases h
  · cases h
  · obtain ⟨hans, hids, hother, rest, hev⟩ := start_registers eng now req hc
    rw [Except.ok.inj h] at hans hids hother hev
    cases hans
    exact ⟨rfl, rfl, hids, hother, _, rest, hev, rfl, rfl, rfl, rfl, rfl, rfl, rfl⟩

end StartWorker

/-- Starting a task. A start answers an error exactly when a check fails, the error being the
first failing check and the engine left as it was, or when every check passes, the thread can
take its name and the system refuses it, the error being the system's. A refused start leaves
the registry, the events and the files as they were, but not the retired list when a retired
worker has the id: that worker was taken off the list for the thread the system refused. A start
faults exactly when every check passes and the task id holds a NUL character, which no thread
name can. A start that succeeds answers its id, the system having given the thread; it
registers exactly that task after the others, leaves every other entry alone, and publishes
the task's record as created, before anything its run publishes: preparing, with the request's
address, project, directory, file name and parallel flag. -/
theorem start_reports_first_failure (eng : Engine σ) (now : Moment) (req : StartRequest)
    (spawn : Except IoError Unit) :
    (∀ eng' err, eng.startWorker now req spawn = .ok (eng', .error err) ↔
      (CheckFailure eng req err ∧ eng' = eng) ∨
        (Accepted eng.setup.config.projectsRoot req ∧ eng.entry? req.taskId = none ∧
          '\x00' ∉ req.taskId.toList ∧ ∃ io, spawn = .error io ∧ err = .io io ∧
            eng' = { eng with retired := (takeRetired eng.retired req.taskId).2 })) ∧
    (∀ eng' err, eng.startWorker now req spawn = .ok (eng', .error err) →
      eng'.entries = eng.entries ∧ eng'.events = eng.events ∧ eng'.world = eng.world ∧
        (eng'.retired = eng.retired ↔
          CheckFailure eng req err ∨ req.taskId ∉ eng.retired.map (·.1))) ∧
    ((∃ f, eng.startWorker now req spawn = .error f) ↔
      Accepted eng.setup.config.projectsRoot req ∧ eng.entry? req.taskId = none ∧
        '\x00' ∈ req.taskId.toList) ∧
    (∀ eng' taskId, eng.startWorker now req spawn = .ok (eng', .ok taskId) →
      taskId = req.taskId ∧ spawn = .ok () ∧ eng'.ids = eng.ids ++ [taskId] ∧
      (∀ other, other ≠ taskId → Engine.entry? eng' other = eng.entry? other) ∧
      ∃ t rest, eng'.events = eng.events ++ Event.statusChanged t :: rest ∧
        t.taskId = taskId ∧ t.status = .preparing ∧ t.url = req.url ∧
        t.projectId = req.projectId ∧ t.destinationPath = req.destinationPath ∧
        t.filename = req.filename ∧ t.concurrent = req.concurrent) :=
  ⟨startWorker_eq_refusal_iff, fun _ _ => startWorker_refusal_keeps, startWorker_faults_iff,
    fun _ _ => startWorker_registers⟩

end Controller.Engine

end DownloadEngine
