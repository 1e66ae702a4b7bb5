import Mathlib.Data.List.Infix
import DownloadEngine.Proofs.AttemptLoop
import DownloadEngine.Proofs.QuietRun
import DownloadEngine.Proofs.SinkIntake

/-!
# Single streams: what each attempt does, and one restart

An attempt of a single stream either stops before it touches anything, at a raised stop
signal or at a file it cannot open, or it cuts the file to its first `start` bytes (creating
it empty where nothing stood) and then appends to it only a front of the body the server
answered for the range from there. It answers a refused resume only when the offset it
actually used is past zero, and only for a reason a server gives for it. An attempt that
answers a byte count answers the length of the file, at least the known total.

A transfer runs the attempt loop once from the job's offset and, when that loop ends with a
refused resume, once more from zero after reporting no bytes against the total; the second
loop's answer is final. So it makes at most twice as many attempts as one loop may.

## Main statements

* `openAt_cuts`: opening at an offset cuts the file to its first `start` bytes.
* `StreamJob.once_attempted`: every attempt keeps the contract `StreamJob.Attempted`.
* `StreamJob.run_loops`: a transfer is one attempt loop, or a refused resume and one more.
* `StreamJob.run_restarts_at_most_once`: the two together, with what a completed transfer
  leaves on disk.
-/

namespace DownloadEngine

open Controller

namespace FileTree

variable {t : FileTree} {path : String}

/-- Where a file can be written, the walk ends with no slash after it and no directory there,
and the path reads what `writable` found: the file, or nothing. -/
theorem at?_of_writable {ns : List String} {o : Option (List UInt8)}
    (hw : t.writable path = .ok (ns, o)) :
    ∃ p, t.locate path = .ok p ∧ p.names = ns ∧ p.slash = false ∧ t.get? ns ≠ some .dir ∧
      ns ≠ [] ∧ t.at? path = o.map .file := by
  obtain ⟨p, n, hp, htail, hnames, hs, hnd⟩ := writable_eq_ok hw
  dsimp only at hnames hnd
  have hne : ns ≠ [] := by
    rw [← hnames]
    simp [Place.names, htail]
  refine ⟨p, hp, hnames, hs, hnd, hne, ?_⟩
  rw [at?_eq_readAt hp]
  -- what the walk found there is what `writable` reported
  unfold writable at hw
  rw [hp] at hw
  dsimp only [bind, Except.bind] at hw
  rw [htail] at hw
  dsimp only at hw
  subst hnames
  cases hg : t.get? p.names with
  | none =>
    rw [hg] at hw
    simp only [hs, Bool.false_eq_true, if_false, pure, Except.pure, Except.ok.injEq,
      Prod.mk.injEq, true_and] at hw
    simp [readAt, hg, ← hw]
  | some e =>
    cases e with
    | dir => exact absurd hg hnd
    | file b =>
      rw [hg] at hw
      simp only [hs, Bool.false_eq_true, if_false, pure, Except.pure, Except.ok.injEq,
        Prod.mk.injEq, true_and] at hw
      simp [readAt, hg, hs, ← hw]

/-- Opening for appending reads the file there, or creates it empty where nothing stands, and
gives its length. -/
theorem openAppend_ok {u : FileTree} {len : Nat} (h : t.openAppend path = .ok (u, len)) :
    ∃ old, (t.at? path = some (.file old) ∨ t.at? path = none ∧ old = []) ∧
      len = old.length ∧ u.at? path = some (.file old) := by
  obtain ⟨⟨ns, o⟩, hw, h⟩ := Controller.Except.ok_of_bind_eq_ok h
  obtain ⟨p, hp, rfl, hs, hnd, hne, hat⟩ := at?_of_writable hw
  cases o with
  | none =>
    simp only [pure, Except.pure, Except.ok.injEq, Prod.mk.injEq] at h
    obtain ⟨rfl, rfl⟩ := h
    exact ⟨[], .inr ⟨hat, rfl⟩, rfl, at?_put_file hp hs hnd hne []⟩
  | some b =>
    simp only [pure, Except.pure, Except.ok.injEq, Prod.mk.injEq] at h
    obtain ⟨rfl, rfl⟩ := h
    exact ⟨b, .inl hat, rfl, hat⟩

/-- Truncating a file that exists keeps its first `n` bytes. -/
theorem truncateFile_of_file {p : Place} {c : List UInt8} (hp : t.locate path = .ok p)
    (hg : t.get? p.names = some (.file c)) (hs : p.slash = false) (n : Nat) :
    t.truncateFile path n = .ok (t.put p.names (.file (c.take n))) := by
  unfold truncateFile existingFile
  rw [hp]
  dsimp only [bind, Except.bind]
  rw [hg]
  simp only [hs, Bool.false_eq_true, if_false]
  rfl

/-- Truncating a file makes it read its first `n` bytes. -/
theorem at?_truncateFile {u : FileTree} {c : List UInt8} {n : Nat}
    (hc : t.at? path = some (.file c)) (hu : t.truncateFile path n = .ok u) :
    u.at? path = some (.file (c.take n)) := by
  obtain ⟨p, hp, hg, hs, hput⟩ := at?_put_of_file hc
  rw [truncateFile_of_file hp hg hs, Except.ok.injEq] at hu
  subst hu
  exact hput _

end FileTree

namespace Transfer

open FileTree

/-- Opening at an offset cuts the file to its first `start` bytes, creating it empty where
nothing stood, and gives the offset actually used: `start`, or the file's length when that is
shorter. -/
theorem openAt_cuts {t u : FileTree} {path : String} {start off : Nat}
    (h : openAt t path start = .ok (u, off)) :
    ∃ old, (t.at? path = some (.file old) ∨ t.at? path = none ∧ old = []) ∧
      off = min start old.length ∧ u.at? path = some (.file (old.take start)) := by
  unfold openAt at h
  by_cases h0 : start = 0
  · -- at zero the file is written over, empty
    subst h0
    rw [if_pos rfl, writeFile_eq] at h
    cases hw : t.writable path with
    | error e =>
      rw [hw] at h
      cases h
    | ok x =>
      obtain ⟨ns, o⟩ := x
      obtain ⟨p, hp, rfl, hs, hnd, hne, hat⟩ := at?_of_writable hw
      rw [hw] at h
      simp only [Except.map, bind, Except.bind, pure, Except.pure, Except.ok.injEq,
        Prod.mk.injEq] at h
      obtain ⟨rfl, rfl⟩ := h
      refine ⟨o.getD [], ?_, by simp, by simpa using at?_put_file hp hs hnd hne []⟩
      cases o <;> simp [hat]
  · rw [if_neg h0] at h
    obtain ⟨⟨u₀, len⟩, ha, h⟩ := Controller.Except.ok_of_bind_eq_ok h
    obtain ⟨old, hbefore, rfl, hu₀⟩ := openAppend_ok ha
    refine ⟨old, hbefore, ?_⟩
    -- the offset used is the lesser of `start` and the length; only a longer file is cut
    have htake : old.take (min start old.length) = old.take start := by
      rcases Nat.le_total start old.length with hle | hle
      · rw [Nat.min_eq_left hle]
      · rw [Nat.min_eq_right hle, List.take_length, List.take_of_length_le hle]
    dsimp only at h
    by_cases hgt : old.length > min start old.length
    · rw [if_pos hgt] at h
      obtain ⟨u₁, ht, h⟩ := Controller.Except.ok_of_bind_eq_ok h
      simp only [pure, Except.pure, Except.ok.injEq, Prod.mk.injEq] at h
      obtain ⟨rfl, rfl⟩ := h
      exact ⟨rfl, htake ▸ at?_truncateFile hu₀ ht⟩
    · rw [if_neg hgt] at h
      simp only [pure, Except.pure, Except.ok.injEq, Prod.mk.injEq] at h
      obtain ⟨rfl, rfl⟩ := h
      exact ⟨rfl, by rwa [List.take_of_length_le (by omega)]⟩

/-! ## Refused resumes -/

/-- A failure becomes a refused resume only past offset zero, and only from a refused resume
or a `416`. -/
theorem atOffset_eq_resumeRejected {f : TransferFailure} {offset : Nat}
    (h : atOffset f offset = .resumeRejected) :
    0 < offset ∧ (f = .resumeRejected ∨ f = .http 416) := by
  cases f with
  | http code =>
    by_cases hc : code = 416 ∧ offset > 0
    · exact ⟨hc.2, .inr (by rw [hc.1])⟩
    · simp [atOffset, hc] at h
  | resumeRejected =>
    by_cases ho : offset > 0
    · exact ⟨ho, .inl rfl⟩
    · simp [atOffset, ho] at h
  | _ => simp [atOffset] at h

/-- An exchange that broke off is a refused resume only past offset zero, and only for one of
the library's resume codes or a sink that refused an ignored range or a `416`. -/
theorem brokenOff_eq_resumeRejected {i : Intake} {code offset : Nat}
    (h : brokenOff i code offset = .resumeRejected) :
    0 < offset ∧
      (code ∈ resumeCodes ∨ i.refusal = some .resumeIgnored ∨ i.refusal = some (.status 416)) := by
  obtain ⟨ho, hf⟩ := atOffset_eq_resumeRejected h
  refine ⟨ho, ?_⟩
  by_cases hc : code ∈ resumeCodes
  · exact .inl hc
  rw [if_neg hc] at hf
  -- otherwise the failure is the one the sink's refusal stands for
  cases hr : i.refusal with
  | none => simp [Intake.failure, hr] at hf
  | some r =>
    rw [Intake.failure_of_refusal hr] at hf
    cases r <;> simp_all [Refusal.failure]

namespace StreamJob

variable (job : StreamJob) {offset : Nat} {reply : Reply} {intake : Intake}

/-- The last check, of the known total, answers the bytes on disk or a short body. -/
theorem totalCheck_eq_ok {bytes : Nat}
    (h : (if job.total > 0 ∧ offset + intake.written < job.total then
      (.error (.shortBody (job.total - offset) intake.written) : Except TransferFailure Nat)
      else .ok (offset + intake.written)) = .ok bytes) :
    bytes = offset + intake.written ∧ (0 < job.total → job.total ≤ bytes) := by
  by_cases hshort : job.total > 0 ∧ offset + intake.written < job.total
  · rw [if_pos hshort] at h
    cases h
  · rw [if_neg hshort, Except.ok.injEq] at h
    exact ⟨h.symm, fun _ => by omega⟩

theorem totalCheck_ne_resumeRejected :
    (if job.total > 0 ∧ offset + intake.written < job.total then
      (.error (.shortBody (job.total - offset) intake.written) : Except TransferFailure Nat)
      else .ok (offset + intake.written)) ≠ .error .resumeRejected := by
  split <;> simp

/-- The length check, before the last one, throws only a short body. -/
theorem lengthCheck_ne_resumeRejected :
    (match intake.contentLength with
      | some expected =>
        if intake.written < expected then
          (.error (.shortBody expected intake.written) : Except TransferFailure Nat)
        else if job.total > 0 ∧ offset + intake.written < job.total then
          .error (.shortBody (job.total - offset) intake.written)
        else .ok (offset + intake.written)
      | none =>
        if job.total > 0 ∧ offset + intake.written < job.total then
          .error (.shortBody (job.total - offset) intake.written)
        else .ok (offset + intake.written)) ≠ .error .resumeRejected := by
  cases intake.contentLength with
  | none => exact job.totalCheck_ne_resumeRejected
  | some expected =>
    dsimp only
    split
    · simp
    · exact job.totalCheck_ne_resumeRejected

/-- A reply passes the check with the bytes on disk: the offset and the bytes written, at least
the known total. -/
theorem check_eq_ok {bytes : Nat} (h : job.check offset reply intake = .ok bytes) :
    bytes = offset + intake.written ∧ (0 < job.total → job.total ≤ bytes) := by
  unfold check at h
  simp only [bind, Except.bind, pure, Except.pure, throw, throwThe, MonadExceptOf.throw] at h
  by_cases ht : job.source.transport = .http
  · rw [if_pos ht] at h
    by_cases hs : reply.status = 206 ∨ reply.status = 200 ∧ offset = 0
    · rw [if_pos hs] at h
      cases hcl : intake.contentLength with
      | none =>
        simp only [hcl] at h
        exact job.totalCheck_eq_ok h
      | some expected =>
        simp only [hcl] at h
        by_cases hw : intake.written < expected
        · rw [if_pos hw] at h
          cases h
        · rw [if_neg hw] at h
          exact job.totalCheck_eq_ok h
    · rw [if_neg hs] at h
      by_cases hr : reply.status = 200 ∨ reply.status = 416 ∧ offset > 0
      · rw [if_pos hr] at h
        cases h
      · rw [if_neg hr] at h
        cases h
  · rw [if_neg ht] at h
    exact job.totalCheck_eq_ok h

/-- The check answers a refused resume only for an HTTP status of `200` or `416` past offset
zero. -/
theorem check_eq_resumeRejected (h : job.check offset reply intake = .error .resumeRejected) :
    0 < offset ∧ job.source.transport = .http ∧ (reply.status = 200 ∨ reply.status = 416) := by
  unfold check at h
  simp only [bind, Except.bind, pure, Except.pure, throw, throwThe, MonadExceptOf.throw] at h
  by_cases ht : job.source.transport = .http
  · rw [if_pos ht] at h
    by_cases hs : reply.status = 206 ∨ reply.status = 200 ∧ offset = 0
    · rw [if_pos hs] at h
      exact absurd h job.lengthCheck_ne_resumeRejected
    · -- only the status check throws it
      rw [if_neg hs] at h
      by_cases hr : reply.status = 200 ∨ reply.status = 416 ∧ offset > 0
      · refine ⟨?_, ht, ?_⟩ <;> omega
      · rw [if_neg hr] at h
        cases h
  · rw [if_neg ht] at h
    exact absurd h job.totalCheck_ne_resumeRejected

/-- The answer of a settled attempt is a byte count only from the check. -/
theorem settle_eq_ok {bytes : Nat} (h : job.settle offset reply intake = .ok bytes) :
    job.check offset reply intake = .ok bytes := by
  unfold settle at h
  cases hb : intake.breakCode reply.cut with
  | none => rwa [hb] at h
  | some code =>
    rw [hb] at h
    cases h

/-- An attempt answers bytes only when the sink refused nothing. -/
theorem refusal_of_settle_eq_ok {bytes : Nat} (h : job.settle offset reply intake = .ok bytes) :
    intake.refusal = none := by
  unfold settle at h
  cases hb : intake.breakCode reply.cut with
  | none => exact Intake.refusal_of_breakCode hb
  | some code =>
    rw [hb] at h
    cases h

/-- A settled attempt is a refused resume from the break-off or from the check. -/
theorem settle_eq_resumeRejected (h : job.settle offset reply intake = .error .resumeRejected) :
    (∃ code, intake.breakCode reply.cut = some code ∧
        brokenOff intake code offset = .resumeRejected) ∨
      job.check offset reply intake = .error .resumeRejected := by
  unfold settle at h
  cases hb : intake.breakCode reply.cut with
  | none =>
    rw [hb] at h
    exact .inr h
  | some code =>
    rw [hb] at h
    exact .inl ⟨code, rfl, Except.error.inj h⟩

end StreamJob

/-! ## What a sink appends -/

theorem flatten_piecesOf {size : Nat} (hs : 0 < size) :
    ∀ (fuel : Nat) (body : List UInt8), body.length ≤ fuel →
      (piecesOf size fuel body).flatten = body := by
  intro fuel
  induction fuel with
  | zero =>
    intro body hb
    rw [List.length_eq_zero_iff.1 (Nat.le_zero.1 hb)]
    rfl
  | succ fuel ih =>
    intro body hb
    cases body with
    | nil => rfl
    | cons b bs =>
      -- a piece off the front, then the rest in pieces
      have hrest : ((b :: bs).drop size).length ≤ fuel := by
        simp only [List.length_drop, List.length_cons] at hb ⊢
        omega
      show (b :: bs).take size ++ (piecesOf size fuel ((b :: bs).drop size)).flatten = b :: bs
      rw [ih _ hrest, List.take_append_drop]

/-- The pieces of a body are the body. -/
theorem flatten_pieces (size : Nat) (body : List UInt8) : (pieces size body).flatten = body :=
  flatten_piecesOf (Nat.lt_of_lt_of_le Nat.zero_lt_one (Nat.le_max_right size 1)) _ _
    (Nat.le_refl _)

namespace Sink

variable {σ : Type} (k : Sink)

theorem filterMap_piece_callbacks (signal : Option Signal) (size : Nat) (reply : Reply) :
    (callbacks signal size reply).filterMap Callback.piece? = pieces size reply.body := by
  simp [callbacks, List.filterMap_append, List.filterMap_map, Function.comp_def,
    Callback.piece?]

/-- A reply taken through a sink whose file is there appends to it a front of the body, as
many bytes as the sink counts written when it refused nothing. -/
theorem take_appends (signal : Option Signal) (size : Nat) (reply : Reply) (w : World σ)
    {c : List UInt8} (hc : w.files.at? k.path = some (.file c)) :
    ∃ pre, (k.take signal size reply w).1.files.at? k.path = some (.file (c ++ pre)) ∧
      pre <+: reply.body ∧ ((k.take signal size reply w).2.refusal = none →
        (k.take signal size reply w).2.written = pre.length) := by
  obtain ⟨taken, spill, ht⟩ := k.run_takes (callbacks signal size reply) w
  have hwritten := ht.written_eq
  simp only [Intake.fresh, Nat.zero_add] at hwritten
  refine ⟨taken.flatten ++ spill, ?_, ?_, fun hr => ?_⟩
  · rw [← List.append_assoc]
    exact ht.file_eq hc
  · have hpre := ht.taken_prefix
    rwa [filterMap_piece_callbacks, flatten_pieces] at hpre
  · -- with nothing refused, nothing reached the file uncounted
    have hr' : (k.run (callbacks signal size reply) w).2.refusal = none := hr
    have hspill : spill = [] := by
      by_contra hne
      rcases ht.spill_of_ne_nil hne with ⟨e, he⟩ | he <;> rw [hr'] at he <;> cases he
    rw [show (k.take signal size reply w).2.written =
      (k.run (callbacks signal size reply) w).2.written from rfl, hwritten, hspill, List.append_nil]

/-- The reasons a sink under a status refuses a piece: a stop signal, the status itself (an
error status, or a `200` where a range past zero was asked for), the limit, or the file. -/
def RefusesFor (status : Option Nat) : Refusal → Prop
  | .stopped _ => True
  | .status code => status = some code
  | .resumeIgnored => status = some 200 ∧ k.expectPartial = true
  | .overrun => True
  | .storage _ => True
  | .fault _ => True

/-- A piece, before any refusal, goes through the sink's rules. -/
theorem takes_takePiece (signal : Option Signal) (short : Option (Nat × IoError)) {w : World σ}
    {i : Intake} (h : i.refusal = none) (piece : List UInt8) :
    ∃ taken spill, k.Takes (w, i) [.write signal piece short] taken spill
      (k.takePiece signal short (w, i) piece) :=
  k.takes_write [] (fun _ _ => ⟨[], [], .done⟩) h signal piece short

/-- Taking a piece keeps the status, and a refusal it makes is for a reason the status allows. -/
theorem takePiece_refusesFor (signal : Option Signal) (short : Option (Nat × IoError))
    (w : World σ) {i : Intake} (h : i.refusal = none) (piece : List UInt8) :
    (k.takePiece signal short (w, i) piece).2.status = i.status ∧
      ∀ r, (k.takePiece signal short (w, i) piece).2.refusal = some r →
        k.RefusesFor i.status r := by
  obtain ⟨taken, spill, ht⟩ := k.takes_takePiece signal short h piece
  generalize k.takePiece signal short (w, i) piece = acc' at ht ⊢
  -- one rule applies to the piece, and it ends the callbacks
  cases ht with
  | write files reports _ _ _ _ _ _ hdone =>
    cases hdone
    exact ⟨rfl, fun r hr => by simp [h] at hr⟩
  | stopped s _ => exact ⟨rfl, fun r hr => by cases hr; trivial⟩
  | badStatus code _ hs _ _ => exact ⟨rfl, fun r hr => by cases hr; exact hs⟩
  | rangeIgnored _ hs hp => exact ⟨rfl, fun r hr => by cases hr; exact ⟨hs, hp⟩⟩
  | overrun _ _ _ => exact ⟨rfl, fun r hr => by cases hr; trivial⟩
  | checkFault f _ _ _ => exact ⟨rfl, fun r hr => by cases hr; trivial⟩
  | storage files e _ _ _ _ => exact ⟨rfl, fun r hr => by cases hr; trivial⟩
  | countFault files _ _ _ _ _ => exact ⟨rfl, fun r hr => by cases hr; trivial⟩
  | reportFault files f _ _ _ _ _ _ => exact ⟨rfl, fun r hr => by cases hr; trivial⟩

/-- Over the pieces of a body the status stays, and a refusal is for a reason the status
allows. -/
theorem foldl_takePiece_refusesFor (signal : Option Signal) (short : Option (Nat × IoError))
    (ps : List (List UInt8)) :
    ∀ (acc : World σ × Intake), acc.2.refusal = none →
      (ps.foldl (k.takePiece signal short) acc).2.status = acc.2.status ∧
      ∀ r, (ps.foldl (k.takePiece signal short) acc).2.refusal = some r →
        k.RefusesFor acc.2.status r := by
  induction ps with
  | nil => exact fun acc h => ⟨rfl, fun r hr => by rw [List.foldl_nil, h] at hr; cases hr⟩
  | cons piece rest ih =>
    rintro ⟨w, i⟩ h
    obtain ⟨hstatus, hwhy⟩ := k.takePiece_refusesFor signal short w h piece
    rw [List.foldl_cons]
    cases hnext : (k.takePiece signal short (w, i) piece).2.refusal with
    | none =>
      -- nothing refused yet: the rest decides, under the same status
      obtain ⟨hs, hr⟩ := ih _ hnext
      exact ⟨hs.trans hstatus, fun r h' => hstatus ▸ hr r h'⟩
    | some r₀ =>
      -- refused here: later pieces change nothing
      have hrefused : (k.takePiece signal short (w, i) piece).2.refusal.isSome := by
        rw [hnext]
        rfl
      have hfix := k.foldl_feed_of_refused hrefused
        (rest.map fun piece => Callback.write signal piece short)
      rw [List.foldl_map] at hfix
      rw [show rest.foldl (k.takePiece signal short) (k.takePiece signal short (w, i) piece) =
        k.takePiece signal short (w, i) piece from hfix]
      exact ⟨hstatus, hwhy⟩

/-- A sink refuses a reply only for a reason the last response's status allows. -/
theorem take_refusesFor (signal : Option Signal) (size : Nat) (reply : Reply) (w : World σ)
    {r : Refusal} (h : (k.take signal size reply w).2.refusal = some r) :
    k.RefusesFor (HeaderLine.lastResponse reply.headers).1 r := by
  rw [take_eq] at h
  exact (k.foldl_takePiece_refusesFor signal none _ _ rfl).2 r h

end Sink

/-! ## What an attempt does -/

namespace StreamJob

variable {σ : Type}

/-- The answers in which a server refuses to resume: a failed or cut-short exchange with one of
the transfer library's resume codes; a last response with status `416`; or, over HTTP, a last
response with status `200` (the sink saw the range ignored), or a final status of `200` or
`416`. -/
def ResumeRefused (job : StreamJob) (answer : Except Nat Reply) : Prop :=
  (∃ code, answer = .error code ∧ code ∈ resumeCodes) ∨
  ∃ reply, answer = .ok reply ∧
    ((∃ code, reply.cut = some code ∧ code ∈ resumeCodes) ∨
      (HeaderLine.lastResponse reply.headers).1 = some 416 ∨
      (job.source.transport = .http ∧
        ((HeaderLine.lastResponse reply.headers).1 = some 200 ∨ reply.status = 200 ∨
          reply.status = 416)))

/-- What an attempt from `start` did, seen from outside. Either it stopped before touching
anything, at a raised stop signal or at a file it could not open; or, under no signal, it cut
the file (its bytes `old`, none when nothing stood there) to its first `start` bytes and
appended a front `pre` of the body the server answered for the range from the offset it used,
`min start old.length`. It answers a refused resume only past offset zero and for a reason in
`ResumeRefused`, and a byte count only as the file's length, at least the known total. -/
def Attempted (net : Network σ) (job : StreamJob) (signal : Option Signal) (start : Nat)
    (w w' : World σ) (r : Except TransferFailure Nat) : Prop :=
  (w' = w ∧ ((∃ s, signal = some s ∧ r = .error (.interrupted s)) ∨ ∃ e, r = .error (.storage e))) ∨
  (signal = none ∧ ∃ old pre,
    (w.files.at? job.path = some (.file old) ∨ w.files.at? job.path = none ∧ old = []) ∧
    w'.files.at? job.path = some (.file (old.take start ++ pre)) ∧
    (pre = [] ∨ ∃ reply,
      (net.exchange w.servers (job.request (min start old.length))).2 = .ok reply ∧
        pre <+: reply.body) ∧
    (r = .error .resumeRejected → 0 < min start old.length ∧
      job.ResumeRefused (net.exchange w.servers (job.request (min start old.length))).2) ∧
    ∀ bytes, r = .ok bytes →
      (old.take start ++ pre).length = bytes ∧ (0 < job.total → job.total ≤ bytes))

/-- A reply settles as a refused resume only past offset zero and for a reason the server
gave, given that the sink refused only for reasons the last response's status allows. -/
theorem resumeRefused_of_settle (job : StreamJob) {offset : Nat} {reply : Reply}
    {intake : Intake}
    (hwhy : ∀ r, intake.refusal = some r →
      (job.sink offset).RefusesFor (HeaderLine.lastResponse reply.headers).1 r)
    (h : job.settle offset reply intake = .error .resumeRejected) :
    0 < offset ∧ job.ResumeRefused (.ok reply) := by
  rcases job.settle_eq_resumeRejected h with ⟨code, hb, hbr⟩ | hc
  · obtain ⟨ho, hcode⟩ := brokenOff_eq_resumeRejected hbr
    refine ⟨ho, .inr ⟨reply, rfl, ?_⟩⟩
    rcases hcode with hcode | hr | hr
    · -- a resume code: a refusing sink breaks off with the write error, which is none
      unfold Intake.breakCode at hb
      by_cases hs : intake.refusal.isSome
      · rw [if_pos hs, Option.some.injEq] at hb
        subst hb
        exact absurd hcode (by decide)
      · rw [if_neg hs] at hb
        exact .inl ⟨code, hb, hcode⟩
    · -- an ignored range is seen only over HTTP past offset zero
      obtain ⟨h200, hp⟩ := hwhy _ hr
      have hhttp : job.source.transport = .http := by
        simp only [sink, decide_eq_true_eq] at hp
        exact hp.1
      exact .inr (.inr ⟨hhttp, .inl h200⟩)
    · exact .inr (.inl (hwhy _ hr))
  · obtain ⟨ho, hhttp, hs⟩ := job.check_eq_resumeRejected hc
    exact ⟨ho, .inr ⟨reply, rfl, .inr (.inr ⟨hhttp, .inr hs⟩)⟩⟩

/-- Every attempt keeps the contract `Attempted`. -/
theorem once_attempted (net : Network σ) (job : StreamJob) (signal : Option Signal)
    (start : Nat) (w : World σ) :
    job.Attempted net signal start w (job.once net signal start w).1
      (job.once net signal start w).2 := by
  cases signal with
  | some s => exact .inl ⟨rfl, .inl ⟨s, rfl, rfl⟩⟩
  | none =>
  cases hopen : openAt w.files job.path start with
  | error e =>
    have hstep : job.once net none start w = (w, .error (.storage e)) := by
      simp only [once, hopen]
    rw [hstep]
    exact .inl ⟨rfl, .inr ⟨e, rfl⟩⟩
  | ok opened =>
    obtain ⟨files, off⟩ := opened
    obtain ⟨old, hbefore, rfl, hcut⟩ := openAt_cuts hopen
    refine .inr ⟨rfl, old, ?_⟩
    cases hx : net.exchange w.servers (job.request (min start old.length)) with
    | mk servers answer =>
    cases answer with
    | error code =>
      -- the exchange failed: the file stays cut, and only a resume code refuses a resume
      have hstep : job.once net none start w = ({ w with files, servers },
          .error (brokenOff ⟨none, none, 0, none⟩ code (min start old.length))) := by
        simp only [once, hopen, World.exchange, hx]
      rw [hstep]
      refine ⟨[], hbefore, by rwa [List.append_nil], .inl rfl, fun hr => ?_,
        fun bytes h => by cases h⟩
      obtain ⟨ho, hc⟩ := brokenOff_eq_resumeRejected (Except.error.inj hr)
      refine ⟨ho, .inl ⟨code, rfl, ?_⟩⟩
      rcases hc with hc | hc | hc
      · exact hc
      · cases hc
      · cases hc
    | ok reply =>
      -- the reply went through the attempt's sink, which appended a front of its body
      have hstep : job.once net none start w =
          (((job.sink (min start old.length)).take none (max job.bufferSize minBuffer) reply
            { w with files, servers }).1,
          job.settle (min start old.length) reply
            ((job.sink (min start old.length)).take none (max job.bufferSize minBuffer) reply
              { w with files, servers }).2) := by
        simp only [once, hopen, World.exchange, hx]
      obtain ⟨pre, hfile, hpre, hwritten⟩ := (job.sink (min start old.length)).take_appends none
        (max job.bufferSize minBuffer) reply { w with files, servers } hcut
      rw [hstep]
      refine ⟨pre, hbefore, hfile, .inr ⟨reply, rfl, hpre⟩, fun hr => ?_, fun bytes hb => ?_⟩
      · exact job.resumeRefused_of_settle
          (fun r h => Sink.take_refusesFor _ none _ reply _ h) hr
      · obtain ⟨hbytes, htotal⟩ := job.check_eq_ok (job.settle_eq_ok hb)
        refine ⟨?_, htotal⟩
        rw [hbytes, hwritten (job.refusal_of_settle_eq_ok hb), List.length_append,
          List.length_take]

/-- A completed attempt answers the length of the file, at least the known total. -/
theorem Attempted.completed {net : Network σ} {job : StreamJob} {signal : Option Signal}
    {start : Nat} {w w' : World σ} {bytes : Nat}
    (h : job.Attempted net signal start w w' (.ok bytes)) :
    ∃ b, w'.files.at? job.path = some (.file b) ∧ b.length = bytes ∧
      (0 < job.total → job.total ≤ bytes) := by
  rcases h with ⟨-, ⟨s, -, h⟩ | ⟨e, h⟩⟩ | ⟨-, old, pre, -, hfile, -, -, hok⟩
  · cases h
  · cases h
  · exact ⟨_, hfile, hok bytes rfl⟩

end StreamJob

/-! ## A transfer -/

theorem Finish.ofResult_eq_completed {r : Except TransferFailure Nat} {bytes : Nat}
    (h : Finish.ofResult r = .completed bytes) : r = .ok bytes := by
  cases r with
  | ok b =>
    cases h
    rfl
  | error f =>
    cases f with
    | interrupted s => exact absurd h (Finish.ofSignal_ne_completed s bytes)
    | _ => cases h

end Transfer

namespace Retry

variable {σ α : Type} {p : Policy} {stopAt : Nat → Option Signal}
  {step : Nat → σ → σ × Except TransferFailure α}

/-- A loop that answers a value got it from an attempt, in the state that attempt left. -/
theorem Settles.exists_step_of_ok {k : Nat} {s : σ} {r : σ × Outcome α} {v : α}
    (h : Settles p stopAt step k s r) (hv : r.2.result = .ok v) :
    ∃ m t, step m t = (r.1, .ok v) := by
  induction h with
  | success hs =>
    cases hv
    exact ⟨_, _, hs⟩
  | final _ _ => cases hv
  | stopped _ _ _ _ => cases hv
  | retry _ _ _ _ _ ih => exact ih hv

end Retry

namespace Transfer

namespace StreamJob

variable {σ : Type} (net : Network σ) (policy : Retry.Policy) (job : StreamJob)
  (signal : Option Signal)

/-- The attempt loop from `offset` makes attempt one from `offset` and later ones from the
file's length, each on the world the one before left, and at most `max 1 maxAttempts` of them. -/
theorem attempts_settle (offset : Nat) (w : World σ) :
    Retry.Settles policy (fun _ => signal)
        (fun n v => job.once net signal (if n = 1 then offset else v.lengthOr0 job.path) v) 1 w
        (job.attempts net policy signal offset w) ∧
      (job.attempts net policy signal offset w).2.attempts ≤ max 1 policy.maxAttempts := by
  have h := Retry.runOnFrom_settles policy (fun _ => signal)
    (fun n v => job.once net signal (if n = 1 then offset else v.lengthOr0 job.path) v) 1 w
    policy.maxAttempts (by omega)
  exact ⟨h, h.attempts_le.2⟩

variable {net policy job signal}

theorem run_of_ne {w w₁ : World σ} {o₁ : Retry.Outcome Nat}
    (h₁ : job.attempts net policy signal job.offset w = (w₁, o₁))
    (hr : o₁.result ≠ .error .resumeRejected) :
    job.run net policy signal w = (w₁, .ofResult o₁.result) := by
  unfold run
  rw [h₁]
  dsimp only
  split
  · next h => exact absurd h hr
  · rfl

theorem run_of_eq {w w₁ : World σ} {o₁ : Retry.Outcome Nat}
    (h₁ : job.attempts net policy signal job.offset w = (w₁, o₁))
    (hr : o₁.result = .error .resumeRejected) :
    job.run net policy signal w =
      ((job.attempts net policy signal 0 (w₁.report 0 job.total)).1,
        .ofResult (job.attempts net policy signal 0 (w₁.report 0 job.total)).2.result) := by
  unfold run
  rw [h₁]
  dsimp only
  rw [hr]

variable (net policy job signal)

/-- A transfer is one attempt loop from the job's offset, or, when that loop ends with a
refused resume, that loop and one more from zero after a report of no bytes, whose answer is
final; together they make at most twice as many attempts as one loop may. -/
theorem run_loops (w : World σ) :
    ∃ w₁ o₁, Retry.Settles policy (fun _ => signal)
        (fun n v => job.once net signal (if n = 1 then job.offset else v.lengthOr0 job.path) v)
        1 w (w₁, o₁) ∧
      (o₁.result ≠ .error .resumeRejected →
        job.run net policy signal w = (w₁, .ofResult o₁.result) ∧
          o₁.attempts ≤ max 1 policy.maxAttempts) ∧
      (o₁.result = .error .resumeRejected →
        ∃ w₂ o₂, Retry.Settles policy (fun _ => signal)
            (fun n v => job.once net signal (if n = 1 then 0 else v.lengthOr0 job.path) v)
            1 (w₁.report 0 job.total) (w₂, o₂) ∧
          job.run net policy signal w = (w₂, .ofResult o₂.result) ∧
          o₁.attempts + o₂.attempts ≤ 2 * max 1 policy.maxAttempts) := by
  obtain ⟨h₁, hle₁⟩ := job.attempts_settle net policy signal job.offset w
  cases hfirst : job.attempts net policy signal job.offset w with
  | mk w₁ o₁ =>
    rw [hfirst] at h₁ hle₁
    refine ⟨w₁, o₁, h₁, fun hr => ⟨run_of_ne hfirst hr, hle₁⟩, fun hr => ?_⟩
    obtain ⟨h₂, hle₂⟩ := job.attempts_settle net policy signal 0 (w₁.report 0 job.total)
    cases hsecond : job.attempts net policy signal 0 (w₁.report 0 job.total) with
    | mk w₂ o₂ =>
      rw [hsecond] at h₂ hle₂
      dsimp only at hle₁ hle₂
      refine ⟨w₂, o₂, h₂, ?_, by omega⟩
      rw [run_of_eq hfirst hr, hsecond]

/-- A loop whose answer is a byte count leaves the file at that length, at least the known
total. -/
theorem files_of_settles_ok {startOf : Nat → World σ → Nat} {v w' : World σ}
    {o : Retry.Outcome Nat} {bytes : Nat}
    (h : Retry.Settles policy (fun _ => signal)
      (fun n v => job.once net signal (startOf n v) v) 1 v (w', o))
    (ho : o.result = .ok bytes) :
    ∃ b, w'.files.at? job.path = some (.file b) ∧ b.length = bytes ∧
      (0 < job.total → job.total ≤ bytes) := by
  obtain ⟨m, t, hstep⟩ := h.exists_step_of_ok ho
  have ha := job.once_attempted net signal (startOf m t) t
  rw [hstep] at ha
  exact ha.completed

/-- A completed transfer leaves the file at the length it answers, at least the known total. -/
theorem run_completed (w : World σ) {w' : World σ} {bytes : Nat}
    (h : job.run net policy signal w = (w', .completed bytes)) :
    ∃ b, w'.files.at? job.path = some (.file b) ∧ b.length = bytes ∧
      (0 < job.total → job.total ≤ bytes) := by
  obtain ⟨w₁, o₁, h₁, hone, htwo⟩ := job.run_loops net policy signal w
  by_cases hr : o₁.result = .error .resumeRejected
  · obtain ⟨w₂, o₂, h₂, hrun, -⟩ := htwo hr
    rw [hrun, Prod.mk.injEq] at h
    obtain ⟨rfl, hdone⟩ := h
    exact job.files_of_settles_ok net policy signal h₂ (Finish.ofResult_eq_completed hdone)
  · obtain ⟨hrun, -⟩ := hone hr
    rw [hrun, Prod.mk.injEq] at h
    obtain ⟨rfl, hdone⟩ := h
    exact job.files_of_settles_ok net policy signal h₁ (Finish.ofResult_eq_completed hdone)

/-- A single-stream transfer, over every network, policy, job, signal and world. Every attempt
keeps the contract `Attempted`: it stops before touching anything, or cuts the file to its first
`start` bytes and appends only a front of the body answered for the range from there, refusing a
resume only past offset zero for a reason the server gave. The transfer is the attempt loop
from the job's offset, whose attempts after the first start from the file's length, and, only
when that loop ends with a refused resume, one more loop from zero after a report of no bytes
against the total; the two make at most `2 * max 1 maxAttempts` attempts. A completed transfer
answers the file's length, at least the known total. -/
theorem run_restarts_at_most_once (w : World σ) :
    (∀ start (v : World σ), job.Attempted net signal start v (job.once net signal start v).1
        (job.once net signal start v).2) ∧
    (∃ w₁ o₁, Retry.Settles policy (fun _ => signal)
        (fun n v => job.once net signal (if n = 1 then job.offset else v.lengthOr0 job.path) v)
        1 w (w₁, o₁) ∧
      (o₁.result ≠ .error .resumeRejected →
        job.run net policy signal w = (w₁, .ofResult o₁.result) ∧
          o₁.attempts ≤ max 1 policy.maxAttempts) ∧
      (o₁.result = .error .resumeRejected →
        ∃ w₂ o₂, Retry.Settles policy (fun _ => signal)
            (fun n v => job.once net signal (if n = 1 then 0 else v.lengthOr0 job.path) v)
            1 (w₁.report 0 job.total) (w₂, o₂) ∧
          job.run net policy signal w = (w₂, .ofResult o₂.result) ∧
          o₁.attempts + o₂.attempts ≤ 2 * max 1 policy.maxAttempts)) ∧
    ∀ w' bytes, job.run net policy signal w = (w', .completed bytes) →
      ∃ b, w'.files.at? job.path = some (.file b) ∧ b.length = bytes ∧
        (0 < job.total → job.total ≤ bytes) :=
  ⟨job.once_attempted net signal, job.run_loops net policy signal w,
    fun _ _ h => job.run_completed net policy signal w h⟩

/-- A server that answers the range from byte 2 with its whole body of three bytes makes the
transfer start again from zero, and the completed transfer leaves those three bytes. -/
theorem run_restarts_at_most_once_after_ignored_range :
    ∃ b, (StreamJob.run
        (⟨fun s _ => (s, .ok ⟨200, ["HTTP/1.1 200 OK"], [1, 2, 3], none⟩), fun _ => []⟩ :
          Network Unit)
        ⟨3, ⟨0⟩, ⟨0⟩⟩ ⟨⟨⟨"http", none, .segments ["", "f"], none, none⟩, .http⟩, "f", 2, 3, 1024⟩
        none ⟨FileTree.empty.put ["f"] (.file [1, 2]), (), []⟩).1.files.at? "f" = some (.file b) ∧
      b.length = 3 ∧ (0 < 3 → 3 ≤ 3) :=
  (run_restarts_at_most_once
    (⟨fun s _ => (s, .ok ⟨200, ["HTTP/1.1 200 OK"], [1, 2, 3], none⟩), fun _ => []⟩ : Network Unit)
    ⟨3, ⟨0⟩, ⟨0⟩⟩ ⟨⟨⟨"http", none, .segments ["", "f"], none, none⟩, .http⟩, "f", 2, 3, 1024⟩ none
    ⟨FileTree.empty.put ["f"] (.file [1, 2]), (), []⟩).2.2 _ 3 (Prod.ext rfl (by decide +kernel))

/- The restart reports no bytes against the total before the body arrives again. -/
example : (StreamJob.run
    (⟨fun s _ => (s, .ok ⟨200, ["HTTP/1.1 200 OK"], [1, 2, 3], none⟩), fun _ => []⟩ : Network Unit)
    ⟨3, ⟨0⟩, ⟨0⟩⟩ ⟨⟨⟨"http", none, .segments ["", "f"], none, none⟩, .http⟩, "f", 2, 3, 1024⟩ none
    ⟨FileTree.empty.put ["f"] (.file [1, 2]), (), []⟩).1.reports = [(0, 3), (3, 3)] := by
  decide +kernel

end StreamJob

end Transfer

end DownloadEngine
