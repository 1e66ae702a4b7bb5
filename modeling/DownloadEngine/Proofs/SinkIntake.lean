import DownloadEngine.Transfer.Sink
import DownloadEngine.Proofs.TreeLaws

/-!
# What a sink writes

The rules a sink follows, callback by callback, stated as a relation `Sink.Takes`, and what
follows from them over every sequence of callbacks.

A header line, before any refusal, makes the status and length those of the last response so
far. A piece of the body is counted exactly when these pass at that moment: no stop signal is
raised; the status is none yet, `206`, or `200` when no range past zero was asked for; the
bytes written so far and the piece fit under the limit, if there is one; the device takes the
whole piece; and the count stays a word. A counted piece is reported, when the sink reports, as
the bytes on disk and the total. Otherwise the exchange ends at the piece for the first check
it fails; a progress tick under a raised signal ends it too.

Not every byte in the file was counted. A device that gives out keeps what it took of the
piece, and a count that leaves the word faults after the file took the piece; so does a report
whose sum leaves the word, after the piece was counted. The file then holds the counted pieces
followed by these bytes of the piece that ended the exchange.

## Main statements

* `Sink.run_takes`: a sink run from a fresh intake follows the rules.
* `Sink.Takes.unique`: the rules leave no choice, so a piece that passes the checks is counted.
* `Sink.Takes.file_eq`: the file receives the pieces counted, in order, then what reached it
  of the piece that ended the exchange.
* `Sink.Takes.fits`, `Sink.Takes.written_le`: the count stays under the limit and a word.
* `Sink.Takes.reports_grow`: progress reports only grow.
* `Sink.file_receives_counted_pieces`: all of these for a run, with the failure a refusal
  stands for.
* `Sink.refused_writes_reach_the_file`: a device that gives out, and a total that leaves the
  word, each leave bytes of an unfinished write in the file.
-/

namespace DownloadEngine

namespace FileTree

/-- A file put where a path walks to, with no slash after it and no directory there, is what
the path then reads. -/
theorem at?_put_file {t : FileTree} {path : String} {p : Place} (hp : t.locate path = .ok p)
    (hs : p.slash = false) (hnd : t.get? p.names ≠ some .dir) (hne : p.names ≠ [])
    (b : List UInt8) : (t.put p.names (.file b)).at? path = some (.file b) := by
  rw [at?_eq_readAt ((sameDirs_put_file hnd hne b).symm.locate_eq_ok hp)]
  simp [readAt, get?_put t hne, hs]

/-- Where a path reads a file, a file put at its place is what the path then reads. -/
theorem at?_put_of_file {t : FileTree} {path : String} {c : List UInt8}
    (hc : t.at? path = some (.file c)) :
    ∃ p, t.locate path = .ok p ∧ t.get? p.names = some (.file c) ∧ p.slash = false ∧
      ∀ b, (t.put p.names (.file b)).at? path = some (.file b) := by
  obtain ⟨p, hp, hg, hs⟩ := at?_eq_some_file hc
  exact ⟨p, hp, hg, hs, at?_put_file hp hs (by simp [hg]) (names_ne_nil_of_file hg)⟩

/-- Appending to a file makes it read its old bytes and then the new ones. -/
theorem at?_appendFile {t u : FileTree} {path : String} {c bs : List UInt8}
    (hc : t.at? path = some (.file c)) (hu : t.appendFile path bs = .ok u) :
    u.at? path = some (.file (c ++ bs)) := by
  obtain ⟨p, hp, hg, hs, hput⟩ := at?_put_of_file hc
  rw [appendFile_of_file hp hg hs, Except.ok.injEq] at hu
  subst hu
  exact hput _

/-- A device that gives out with no error takes every byte. -/
theorem kept_of_cutError {bs : List UInt8} {cut : Option (Nat × IoError)}
    (h : cutError bs cut = none) : kept bs cut = bs := by
  cases cut with
  | none => rfl
  | some c =>
    obtain ⟨n, e⟩ := c
    have hn : ¬ n < bs.length := fun hn => by simp [cutError, hn] at h
    exact List.take_of_length_le (Nat.le_of_not_lt hn)

/-- What a device takes of a write is a front of it. -/
theorem kept_prefix (bs : List UInt8) (cut : Option (Nat × IoError)) : kept bs cut <+: bs := by
  cases cut with
  | none => exact List.prefix_refl bs
  | some c => exact List.take_prefix c.1 bs

/-- On a file that is there, a device that gives out part way leaves the bytes it took, and the
write fails exactly when it took fewer than it was given. -/
theorem appendCut_of_file {t : FileTree} {path : String} {c : List UInt8}
    (hc : t.at? path = some (.file c)) (bs : List UInt8) (cut : Option (Nat × IoError)) :
    (t.appendCut path bs cut).1.at? path = some (.file (c ++ kept bs cut)) ∧
      (t.appendCut path bs cut).2 = cutError bs cut := by
  obtain ⟨p, hp, hg, hs, hput⟩ := at?_put_of_file hc
  unfold appendCut
  rw [appendFile_of_file hp hg hs]
  exact ⟨hput _, rfl⟩

end FileTree

namespace Transfer

/-- The failure each refusal stands for: the stop signal, the storage error, the refused
status, a range that was ignored, a body longer than the range asked for, or a fault's text. -/
def Refusal.failure : Refusal → TransferFailure
  | .stopped s => .interrupted s
  | .storage e => .storage e
  | .status code => .http code
  | .resumeIgnored => .resumeRejected
  | .overrun => .protocol "response body is longer than the requested range"
  | .fault f => .protocol f.message

/-- Once a piece is refused, the exchange fails for the refusal's reason, whatever code the
transfer library broke off with. -/
theorem Intake.failure_of_refusal {i : Intake} {r : Refusal} (h : i.refusal = some r)
    (code : Nat) : i.failure code = r.failure := by
  cases r <;> simp [Intake.failure, h, Refusal.failure]

/-- An exchange that did not break off had nothing refused. -/
theorem Intake.refusal_of_breakCode {i : Intake} {cut : Option Nat} (h : i.breakCode cut = none) :
    i.refusal = none := by
  unfold Intake.breakCode at h
  by_cases hs : i.refusal.isSome
  · rw [if_pos hs] at h
    cases h
  · exact Option.not_isSome_iff_eq_none.1 hs

/-- The piece a callback writes, if it writes one. -/
def Callback.piece? : Callback → Option (List UInt8)
  | .header _ => none
  | .write _ piece _ => some piece
  | .progress _ => none

namespace Sink

variable {σ : Type} (k : Sink)

/-- A status lets a piece through: none yet, `206`, or `200` when no range past zero was asked
for. -/
def Allows (status : Option Nat) : Prop :=
  status = none ∨ status = some 206 ∨ (status = some 200 ∧ k.expectPartial = false)

/-- A count of bytes fits under the sink's limit, if it has one. -/
def Fits (n : Nat) : Prop := ∀ l ∈ k.limit, n ≤ l

theorem checkStatus_eq_none_iff (status : Option Nat) :
    k.checkStatus status = none ↔ k.Allows status := by
  unfold checkStatus Allows
  cases status with
  | none => simp
  | some code =>
    by_cases h206 : code = 206
    · simp [h206]
    by_cases h200 : code = 200
    · cases k.expectPartial <;> simp [h200]
    · simp [h206, h200]

/-- A status is refused either as an error status or, for a `200` where a range past zero was
asked for, as an ignored range. -/
theorem checkStatus_eq_some {status : Option Nat} {r : Refusal} (h : k.checkStatus status = some r) :
    (∃ code, status = some code ∧ code ≠ 206 ∧ code ≠ 200 ∧ r = .status code) ∨
      (status = some 200 ∧ k.expectPartial = true ∧ r = .resumeIgnored) := by
  unfold checkStatus at h
  cases status with
  | none => cases h
  | some code =>
    by_cases h206 : code = 206
    · simp [h206] at h
    by_cases h200 : code = 200
    · subst h200
      cases hp : k.expectPartial <;> simp_all
    · simp only [h206, h200, if_false, Option.some.injEq] at h
      exact .inl ⟨code, rfl, h206, h200, h.symm⟩

/-- A limit check that lets a piece through keeps the count and the piece under the limit. -/
theorem fits_of_overruns {a b : Nat} (h : k.overruns a b = .ok false) : k.Fits (a + b) := by
  intro l hl
  have hlim : k.limit = some l := hl
  unfold overruns at h
  rw [hlim] at h
  cases hw : addWord a b with
  | error f => rw [hw] at h; cases h
  | ok n =>
    rw [hw] at h
    obtain ⟨-, rfl⟩ := (addWord_ok_iff a b n).1 hw
    simpa [Except.map] using h

/-- A limit check's sum leaves the word only under a limit, and then with the addition fault. -/
theorem overruns_eq_error {a b : Nat} {f : Fault} (h : k.overruns a b = .error f) :
    k.limit.isSome ∧ u64Max < a + b ∧ f = .addOverflow := by
  unfold overruns at h
  cases hlim : k.limit with
  | none => rw [hlim] at h; cases h
  | some l =>
    rw [hlim] at h
    unfold addWord at h
    by_cases hle : a + b ≤ u64Max
    · simp [hle, Except.map] at h
    · simp only [hle, if_false, Except.map, Except.error.injEq] at h
      exact ⟨rfl, Nat.lt_of_not_le hle, h.symm⟩

/-- A total faults only for a `206` past the base, when no total was known before, and then
with the addition fault. -/
theorem total_eq_error {known : Nat} {status contentLength : Option Nat} {f : Fault}
    (h : k.total known status contentLength = .error f) :
    f = .addOverflow ∧ known = 0 ∧ status = some 206 ∧
      ∃ len, contentLength = some len ∧ u64Max < k.base + len := by
  unfold total at h
  by_cases hk : known > 0
  · rw [if_pos hk] at h; cases h
  rw [if_neg hk] at h
  split at h
  next len =>
    -- the sum past the base
    unfold addWord at h
    by_cases hle : k.base + len ≤ u64Max
    · rw [if_pos hle] at h; cases h
    · rw [if_neg hle, Except.error.injEq] at h
      exact ⟨h.symm, Nat.eq_zero_of_not_pos hk, rfl, len, rfl, Nat.lt_of_not_le hle⟩
  · cases h
  · cases h

/-- A report a sink makes is the bytes on disk past its base, with the total. -/
theorem reportOf_eq_ok {i : Intake} {reports : List (Nat × Nat)} (h : k.reportOf i = .ok reports) :
    ∀ r ∈ reports, r.1 = k.base + i.written ∧
      ∃ known, k.reporting = some known ∧ k.total known i.status i.contentLength = .ok r.2 := by
  unfold reportOf at h
  cases hr : k.reporting with
  | none =>
    rw [hr] at h
    cases h
    intro r hmem
    cases hmem
  | some known =>
    rw [hr] at h
    cases hd : addWord k.base i.written with
    | error f => simp [hd, bind, Except.bind] at h
    | ok d =>
      cases ht : k.total known i.status i.contentLength with
      | error f => simp [hd, ht, bind, Except.bind] at h
      | ok t =>
        simp only [hd, ht, bind, Except.bind, pure, Except.pure, Except.ok.injEq] at h
        subst h
        intro r hmem
        rw [List.mem_singleton] at hmem
        subst hmem
        exact ⟨((addWord_ok_iff _ _ _).1 hd).2, known, rfl, ht⟩

/-- A report faults with the addition fault, when the bytes on disk or the total leave the
word. -/
theorem reportOf_eq_error {i : Intake} {f : Fault} (h : k.reportOf i = .error f) :
    f = .addOverflow ∧ ∃ known, k.reporting = some known ∧
      (u64Max < k.base + i.written ∨ k.total known i.status i.contentLength = .error f) := by
  unfold reportOf at h
  cases hr : k.reporting with
  | none => rw [hr] at h; cases h
  | some known =>
    rw [hr] at h
    cases hd : addWord k.base i.written with
    | error f' =>
      simp only [hd, bind, Except.bind, Except.error.injEq] at h
      subst h
      unfold addWord at hd
      by_cases hle : k.base + i.written ≤ u64Max
      · rw [if_pos hle] at hd; cases hd
      · rw [if_neg hle, Except.error.injEq] at hd
        exact ⟨hd.symm, known, rfl, .inl (Nat.lt_of_not_le hle)⟩
    | ok d =>
      cases ht : k.total known i.status i.contentLength with
      | error f' =>
        simp only [hd, ht, bind, Except.bind, Except.error.injEq] at h
        subst h
        exact ⟨(k.total_eq_error ht).1, known, rfl, .inr ht⟩
      | ok t => simp [hd, ht, bind, Except.bind, pure, Except.pure] at h

/-- The rules a sink follows. `k.Takes acc cs taken spill acc'`: from `acc`, the callbacks `cs`
lead to `acc'`; `taken` are the pieces the sink counted, in order, and `spill` the bytes of the
piece that ended the exchange that reached the file uncounted. Each rule but `done` applies only
before a refusal; the rules that refuse end the exchange, whatever callbacks follow. -/
inductive Takes (k : Sink) : World σ × Intake → List Callback → List (List UInt8) →
    List UInt8 → World σ × Intake → Prop
  | done {acc} : Takes k acc [] [] [] acc
  /-- A header line sets the status and length as the last response so far gives them. -/
  | header {w i line rest taken spill acc'} (status contentLength : Option Nat) :
      i.refusal = none →
      HeaderLine.absorb (i.status, i.contentLength) line = (status, contentLength) →
      Takes k (w, { i with status, contentLength }) rest taken spill acc' →
      Takes k (w, i) (.header line :: rest) taken spill acc'
  | tick {w i rest taken spill acc'} :
      i.refusal = none → Takes k (w, i) rest taken spill acc' →
      Takes k (w, i) (.progress none :: rest) taken spill acc'
  /-- A piece that passes the checks, goes to the file whole and keeps the count a word is
  counted and, when the sink reports, reported. -/
  | write {w i piece short rest taken spill acc'} (files : FileTree) (reports : List (Nat × Nat)) :
      i.refusal = none → k.Allows i.status → k.overruns i.written piece.length = .ok false →
      w.files.appendCut k.path piece short = (files, none) → i.written + piece.length ≤ u64Max →
      k.reportOf { i with written := i.written + piece.length } = .ok reports →
      Takes k ({ w with files, reports := w.reports ++ reports },
        { i with written := i.written + piece.length }) rest taken spill acc' →
      Takes k (w, i) (.write none piece short :: rest) (piece :: taken) spill acc'
  | stopped {w i piece short rest} (s : Signal) :
      i.refusal = none →
      Takes k (w, i) (.write (some s) piece short :: rest) [] []
        (w, { i with refusal := some (.stopped s) })
  | badStatus {w i piece short rest} (code : Nat) :
      i.refusal = none → i.status = some code → code ≠ 206 → code ≠ 200 →
      Takes k (w, i) (.write none piece short :: rest) [] []
        (w, { i with refusal := some (.status code) })
  | rangeIgnored {w i piece short rest} :
      i.refusal = none → i.status = some 200 → k.expectPartial = true →
      Takes k (w, i) (.write none piece short :: rest) [] []
        (w, { i with refusal := some .resumeIgnored })
  | overrun {w i piece short rest} :
      i.refusal = none → k.Allows i.status → k.overruns i.written piece.length = .ok true →
      Takes k (w, i) (.write none piece short :: rest) [] [] (w, { i with refusal := some .overrun })
  /-- The limit check's sum leaves the word. -/
  | checkFault {w i piece short rest} (f : Fault) :
      i.refusal = none → k.Allows i.status → k.overruns i.written piece.length = .error f →
      Takes k (w, i) (.write none piece short :: rest) [] []
        (w, { i with refusal := some (.fault f) })
  /-- The device gives out, or the file is not there; what the device took stays. -/
  | storage {w i piece short rest} (files : FileTree) (e : IoError) :
      i.refusal = none → k.Allows i.status → k.overruns i.written piece.length = .ok false →
      w.files.appendCut k.path piece short = (files, some e) →
      Takes k (w, i) (.write none piece short :: rest) [] (FileTree.kept piece short)
        ({ w with files }, { i with refusal := some (.storage e) })
  /-- Counting the piece leaves the word, after the file took it. -/
  | countFault {w i piece short rest} (files : FileTree) :
      i.refusal = none → k.Allows i.status → k.overruns i.written piece.length = .ok false →
      w.files.appendCut k.path piece short = (files, none) → u64Max < i.written + piece.length →
      Takes k (w, i) (.write none piece short :: rest) [] piece
        ({ w with files }, { i with refusal := some (.fault .addOverflow) })
  /-- A report's sum leaves the word, after the piece was taken and counted. -/
  | reportFault {w i piece short rest} (files : FileTree) (f : Fault) :
      i.refusal = none → k.Allows i.status → k.overruns i.written piece.length = .ok false →
      w.files.appendCut k.path piece short = (files, none) → i.written + piece.length ≤ u64Max →
      k.reportOf { i with written := i.written + piece.length } = .error f →
      Takes k (w, i) (.write none piece short :: rest) [piece] []
        ({ w with files }, { i with written := i.written + piece.length, refusal := some (.fault f) })
  | halted {w i rest} (s : Signal) :
      i.refusal = none →
      Takes k (w, i) (.progress (some s) :: rest) [] [] (w, { i with refusal := some (.stopped s) })

/-- Once a piece is refused, later callbacks change nothing. -/
theorem foldl_feed_of_refused {acc : World σ × Intake} (h : acc.2.refusal.isSome)
    (cs : List Callback) : cs.foldl k.feed acc = acc := by
  induction cs with
  | nil => rfl
  | cons c rest ih =>
    have hstep : k.feed acc c = acc := by
      obtain ⟨w, i⟩ := acc
      cases c <;> simp_all [feed, header, takePiece, tick]
    rw [List.foldl_cons, hstep, ih]

section Steps

variable {w : World σ} {i : Intake} (rest : List Callback)
  (ih : ∀ acc : World σ × Intake, acc.2.refusal = none →
    ∃ taken spill, k.Takes acc rest taken spill (rest.foldl k.feed acc))

include ih

theorem takes_header (h : i.refusal = none) (line : String) :
    ∃ taken spill, k.Takes (w, i) (.header line :: rest) taken spill
      ((Callback.header line :: rest).foldl k.feed (w, i)) := by
  cases ha : HeaderLine.absorb (i.status, i.contentLength) line with
  | mk status contentLength =>
    have hstep : k.feed (w, i) (.header line) = (w, { i with status, contentLength }) := by
      simp only [feed, header, h, ha, Option.isSome_none, Bool.false_eq_true, if_false]
    obtain ⟨taken, spill, ht⟩ := ih (w, { i with status, contentLength }) h
    rw [List.foldl_cons, hstep]
    exact ⟨taken, spill, .header status contentLength h ha ht⟩

theorem takes_progress (h : i.refusal = none) (signal : Option Signal) :
    ∃ taken spill, k.Takes (w, i) (.progress signal :: rest) taken spill
      ((Callback.progress signal :: rest).foldl k.feed (w, i)) := by
  cases signal with
  | none =>
    have hstep : k.feed (w, i) (.progress none) = (w, i) := by simp [feed, tick, h]
    obtain ⟨taken, spill, ht⟩ := ih (w, i) h
    rw [List.foldl_cons, hstep]
    exact ⟨taken, spill, .tick h ht⟩
  | some s =>
    have hstep : k.feed (w, i) (.progress (some s)) = (w, { i with refusal := some (.stopped s) }) := by
      simp [feed, tick, h]
    rw [List.foldl_cons, hstep, k.foldl_feed_of_refused (by simp)]
    exact ⟨[], [], .halted s h⟩

/-- A piece the checks let through goes to the file; the device, the count and the report then
decide how the exchange goes on. -/
theorem takes_append (h : i.refusal = none) (hallow : k.Allows i.status) (piece : List UInt8)
    (short : Option (Nat × IoError)) (ho : k.overruns i.written piece.length = .ok false)
    (hc : k.checkStatus i.status = none) :
    ∃ taken spill, k.Takes (w, i) (.write none piece short :: rest) taken spill
      (rest.foldl k.feed (k.feed (w, i) (.write none piece short))) := by
  have hend : ∀ (v : World σ) (j : Intake) (r : Refusal),
      rest.foldl k.feed (v, { j with refusal := some r }) = (v, { j with refusal := some r }) :=
    fun v j r => k.foldl_feed_of_refused (by simp) rest
  have hnot : i.refusal.isSome = false := by rw [h]; rfl
  cases ha : w.files.appendCut k.path piece short with
  | mk files err =>
  cases err with
  | some e =>
    have hstep : k.feed (w, i) (.write none piece short) =
        ({ w with files }, { i with refusal := some (.storage e) }) := by
      simp only [feed, takePiece, hnot, hc, ho, ha, Bool.false_eq_true, if_false]
    rw [hstep, hend]
    exact ⟨[], _, .storage files e h hallow ho ha⟩
  | none =>
  cases hw : addWord i.written piece.length with
  | error f =>
    have hlt : u64Max < i.written + piece.length := by
      unfold addWord at hw
      by_cases hle : i.written + piece.length ≤ u64Max
      · rw [if_pos hle] at hw; cases hw
      · exact Nat.lt_of_not_le hle
    have hf : f = .addOverflow := by
      unfold addWord at hw
      rw [if_neg (Nat.not_le_of_lt hlt), Except.error.injEq] at hw
      exact hw.symm
    subst hf
    have hstep : k.feed (w, i) (.write none piece short) =
        ({ w with files }, { i with refusal := some (.fault .addOverflow) }) := by
      simp only [feed, takePiece, hnot, hc, ho, ha, hw, Bool.false_eq_true, if_false]
    rw [hstep, hend]
    exact ⟨[], _, .countFault files h hallow ho ha hlt⟩
  | ok n =>
  obtain ⟨hle, rfl⟩ := (addWord_ok_iff _ _ _).1 hw
  cases hr : k.reportOf { i with written := i.written + piece.length } with
  | error f =>
    have hstep : k.feed (w, i) (.write none piece short) =
        ({ w with files }, { i with written := i.written + piece.length, refusal := some (.fault f) }) := by
      simp only [feed, takePiece, hnot, hc, ho, ha, hw, hr, Bool.false_eq_true, if_false]
    rw [hstep]
    rw [show rest.foldl k.feed ({ w with files },
        { i with written := i.written + piece.length, refusal := some (.fault f) }) =
        ({ w with files }, { i with written := i.written + piece.length, refusal := some (.fault f) })
      from k.foldl_feed_of_refused (by simp) rest]
    exact ⟨[piece], [], .reportFault files f h hallow ho ha hle hr⟩
  | ok reports =>
    have hstep : k.feed (w, i) (.write none piece short) =
        ({ w with files, reports := w.reports ++ reports },
          { i with written := i.written + piece.length }) := by
      simp only [feed, takePiece, hnot, hc, ho, ha, hw, hr, Bool.false_eq_true, if_false]
    obtain ⟨taken, spill, ht⟩ := ih (k.feed (w, i) (.write none piece short)) (by rw [hstep]; exact h)
    rw [hstep] at ht ⊢
    exact ⟨piece :: taken, spill, .write files reports h hallow ho ha hle hr ht⟩

/-- A piece is counted or refused by the checks in their order. -/
theorem takes_write (h : i.refusal = none) (signal : Option Signal) (piece : List UInt8)
    (short : Option (Nat × IoError)) :
    ∃ taken spill, k.Takes (w, i) (.write signal piece short :: rest) taken spill
      ((Callback.write signal piece short :: rest).foldl k.feed (w, i)) := by
  -- a refusal ends the exchange: the callbacks after it change nothing
  have hend : ∀ r, rest.foldl k.feed (w, { i with refusal := some r }) =
      (w, { i with refusal := some r }) := fun r => k.foldl_feed_of_refused (by simp) rest
  rw [List.foldl_cons]
  cases signal with
  | some s =>
    have hstep : k.feed (w, i) (.write (some s) piece short) =
        (w, { i with refusal := some (.stopped s) }) := by
      simp [feed, takePiece, h]
    rw [hstep, hend]
    exact ⟨[], [], .stopped s h⟩
  | none =>
    cases hc : k.checkStatus i.status with
    | some r =>
      have hstep : k.feed (w, i) (.write none piece short) = (w, { i with refusal := some r }) := by
        simp [feed, takePiece, h, hc]
      rw [hstep, hend]
      rcases k.checkStatus_eq_some hc with ⟨code, hs, h206, h200, rfl⟩ | ⟨hs, hp, rfl⟩
      · exact ⟨[], [], .badStatus code h hs h206 h200⟩
      · exact ⟨[], [], .rangeIgnored h hs hp⟩
    | none =>
      have hallow := (k.checkStatus_eq_none_iff _).1 hc
      cases ho : k.overruns i.written piece.length with
      | error f =>
        have hstep : k.feed (w, i) (.write none piece short) =
            (w, { i with refusal := some (.fault f) }) := by
          simp [feed, takePiece, h, hc, ho]
        rw [hstep, hend]
        exact ⟨[], [], .checkFault f h hallow ho⟩
      | ok exceeds =>
        cases exceeds with
        | true =>
          have hstep : k.feed (w, i) (.write none piece short) =
              (w, { i with refusal := some .overrun }) := by
            simp [feed, takePiece, h, hc, ho]
          rw [hstep, hend]
          exact ⟨[], [], .overrun h hallow ho⟩
        | false => exact k.takes_append rest ih h hallow piece short ho hc

end Steps

/-- From any intake with nothing refused, the callbacks follow the rules. -/
theorem takes_foldl (cs : List Callback) : ∀ acc : World σ × Intake, acc.2.refusal = none →
    ∃ taken spill, k.Takes acc cs taken spill (cs.foldl k.feed acc) := by
  induction cs with
  | nil => exact fun _ _ => ⟨[], [], .done⟩
  | cons c rest ih =>
    rintro ⟨w, i⟩ h
    cases c with
    | header line => exact k.takes_header rest ih h line
    | write signal piece short => exact k.takes_write rest ih h signal piece short
    | progress signal => exact k.takes_progress rest ih h signal

/-- A sink run from a fresh intake follows the rules. -/
theorem run_takes (cs : List Callback) (w : World σ) :
    ∃ taken spill, k.Takes (w, Intake.fresh) cs taken spill (k.run cs w) :=
  k.takes_foldl cs (w, Intake.fresh) rfl

variable {k}

/-- The rules leave no choice: from one intake, callbacks lead to one outcome. In particular a
piece that passes the checks is counted, since no rule that refuses applies to it. -/
theorem Takes.unique {acc a₁ a₂ : World σ × Intake} {cs : List Callback}
    {t₁ t₂ : List (List UInt8)} {s₁ s₂ : List UInt8} (h₁ : k.Takes acc cs t₁ s₁ a₁)
    (h₂ : k.Takes acc cs t₂ s₂ a₂) : t₁ = t₂ ∧ s₁ = s₂ ∧ a₁ = a₂ := by
  induction h₁ generalizing t₂ s₂ a₂ with
  | done => cases h₂; exact ⟨rfl, rfl, rfl⟩
  | header status contentLength _ ha _ ih =>
    cases h₂ with
    | header status' contentLength' _ ha' h₂ =>
      -- both read the same line, so both go on from the same intake
      rw [ha, Prod.mk.injEq] at ha'
      obtain ⟨rfl, rfl⟩ := ha'
      exact ih h₂
  | tick _ _ ih =>
    cases h₂ with
    | tick _ h₂ => exact ih h₂
  | write files reports _ _ _ ha _ hr _ ih =>
    cases h₂ with
    | write files' reports' _ _ _ ha' _ hr' h₂ =>
      rw [ha, Prod.mk.injEq] at ha'
      obtain ⟨rfl, -⟩ := ha'
      rw [hr, Except.ok.injEq] at hr'
      subst hr'
      obtain ⟨rfl, rfl, rfl⟩ := ih h₂
      exact ⟨rfl, rfl, rfl⟩
    -- every other rule fails a check this piece passed
    | _ => simp_all [Allows] <;> omega
  | stopped s _ => cases h₂; exact ⟨rfl, rfl, rfl⟩
  | halted s _ => cases h₂; exact ⟨rfl, rfl, rfl⟩
  | badStatus code _ hs h206 h200 =>
    cases h₂ with
    | badStatus code' _ hs' _ _ =>
      rw [hs, Option.some.injEq] at hs'
      subst hs'
      exact ⟨rfl, rfl, rfl⟩
    | _ => simp_all [Allows]
  | rangeIgnored _ hs hp =>
    cases h₂ with
    | rangeIgnored => exact ⟨rfl, rfl, rfl⟩
    | _ => simp_all [Allows]
  | overrun _ _ ho =>
    cases h₂ with
    | overrun => exact ⟨rfl, rfl, rfl⟩
    | _ => simp_all [Allows]
  | checkFault f _ _ ho =>
    cases h₂ with
    | checkFault f' _ _ ho' =>
      rw [ho, Except.error.injEq] at ho'
      subst ho'
      exact ⟨rfl, rfl, rfl⟩
    | _ => simp_all [Allows]
  | storage files e _ _ _ ha =>
    cases h₂ with
    | storage files' e' _ _ _ ha' =>
      rw [ha, Prod.mk.injEq, Option.some.injEq] at ha'
      obtain ⟨rfl, rfl⟩ := ha'
      exact ⟨rfl, rfl, rfl⟩
    | _ => simp_all [Allows]
  | countFault files _ _ _ ha hlt =>
    cases h₂ with
    | countFault files' _ _ _ ha' _ =>
      rw [ha, Prod.mk.injEq] at ha'
      obtain ⟨rfl, -⟩ := ha'
      exact ⟨rfl, rfl, rfl⟩
    | _ => simp_all [Allows] <;> omega
  | reportFault files f _ _ _ ha _ hr =>
    cases h₂ with
    | reportFault files' f' _ _ _ ha' _ hr' =>
      rw [ha, Prod.mk.injEq] at ha'
      obtain ⟨rfl, -⟩ := ha'
      rw [hr, Except.error.injEq] at hr'
      subst hr'
      exact ⟨rfl, rfl, rfl⟩
    | _ => simp_all [Allows] <;> omega

/-- The bytes counted are those of the pieces taken. -/
theorem Takes.written_eq {acc acc' : World σ × Intake} {cs : List Callback}
    {taken : List (List UInt8)} {spill : List UInt8} (h : k.Takes acc cs taken spill acc') :
    acc'.2.written = acc.2.written + taken.flatten.length := by
  induction h with
  | write _ _ _ _ _ _ _ _ _ ih =>
    dsimp only at ih ⊢
    rw [ih, List.flatten_cons, List.length_append]
    omega
  | reportFault => simp
  | _ => simp_all

/-- The count never passes the limit. -/
theorem Takes.fits {acc acc' : World σ × Intake} {cs : List Callback}
    {taken : List (List UInt8)} {spill : List UInt8} (h : k.Takes acc cs taken spill acc')
    (hf : k.Fits acc.2.written) : k.Fits acc'.2.written := by
  induction h with
  | header _ _ _ _ _ ih => exact ih hf
  | write _ _ _ _ ho _ _ _ _ ih => exact ih (k.fits_of_overruns ho)
  | reportFault _ _ _ _ ho => exact k.fits_of_overruns ho
  | tick _ _ ih => exact ih hf
  | _ => exact hf

/-- Every byte that reached the file, counted or not, fits under the limit: the limit check
passed for the whole piece before the device took any of it. -/
theorem Takes.fits_spill {acc acc' : World σ × Intake} {cs : List Callback}
    {taken : List (List UInt8)} {spill : List UInt8} (h : k.Takes acc cs taken spill acc')
    (hf : k.Fits acc.2.written) : k.Fits (acc.2.written + (taken.flatten ++ spill).length) := by
  induction h with
  | done => simpa using hf
  | header _ _ _ _ _ ih => exact ih hf
  | tick _ _ ih => exact ih hf
  | @write w i piece short rest taken spill acc' files reports _ _ ho _ _ _ _ ih =>
    intro l hl
    have := ih (k.fits_of_overruns ho) l hl
    simp only [List.flatten_cons, List.append_assoc, List.length_append] at this ⊢
    omega
  | @storage w i piece short rest files e _ _ ho _ =>
    intro l hl
    have hkept := (FileTree.kept_prefix piece short).length_le
    have := k.fits_of_overruns ho l hl
    simp only [List.flatten_nil, List.nil_append] at this ⊢
    omega
  | countFault _ _ _ ho => simpa using k.fits_of_overruns ho
  | reportFault _ _ _ _ ho => simpa using k.fits_of_overruns ho
  | _ => simpa using hf

/-- The count stays a word. -/
theorem Takes.written_le {acc acc' : World σ × Intake} {cs : List Callback}
    {taken : List (List UInt8)} {spill : List UInt8} (h : k.Takes acc cs taken spill acc')
    (hw : acc.2.written ≤ u64Max) : acc'.2.written ≤ u64Max := by
  induction h with
  | header _ _ _ _ _ ih => exact ih hw
  | write _ _ _ _ _ _ hle _ _ ih => exact ih hle
  | reportFault _ _ _ _ _ _ hle => exact hle
  | tick _ _ ih => exact ih hw
  | _ => exact hw

/-- The file receives the pieces counted, in order, then what reached it of the piece that
ended the exchange. -/
theorem Takes.file_eq {acc acc' : World σ × Intake} {cs : List Callback}
    {taken : List (List UInt8)} {spill : List UInt8} (h : k.Takes acc cs taken spill acc')
    {c : List UInt8} (hc : acc.1.files.at? k.path = some (.file c)) :
    acc'.1.files.at? k.path = some (.file (c ++ taken.flatten ++ spill)) := by
  induction h generalizing c with
  | @write w i piece short rest taken spill acc' files reports _ _ _ ha _ _ _ ih =>
    -- the device gave out with no error, so it took the whole piece
    obtain ⟨hfile, herr⟩ := FileTree.appendCut_of_file hc piece short
    rw [ha] at hfile herr
    rw [FileTree.kept_of_cutError herr.symm] at hfile
    rw [ih hfile, List.flatten_cons, List.append_assoc c]
  | @storage w i piece short rest files e _ _ _ ha =>
    obtain ⟨hfile, -⟩ := FileTree.appendCut_of_file hc piece short
    rw [ha] at hfile
    simpa using hfile
  | @countFault w i piece short rest files _ _ _ ha _ =>
    obtain ⟨hfile, herr⟩ := FileTree.appendCut_of_file hc piece short
    rw [ha] at hfile herr
    rw [FileTree.kept_of_cutError herr.symm] at hfile
    simpa using hfile
  | @reportFault w i piece short rest files f _ _ _ ha _ _ =>
    obtain ⟨hfile, herr⟩ := FileTree.appendCut_of_file hc piece short
    rw [ha] at hfile herr
    rw [FileTree.kept_of_cutError herr.symm] at hfile
    simpa using hfile
  | header _ _ _ _ _ ih => exact ih hc
  | tick _ _ ih => exact ih hc
  | _ => simpa using hc

/-- The pieces counted, then what reached the file of the piece that ended the exchange, are a
front of the pieces written to the sink. -/
theorem Takes.taken_prefix {acc acc' : World σ × Intake} {cs : List Callback}
    {taken : List (List UInt8)} {spill : List UInt8} (h : k.Takes acc cs taken spill acc') :
    taken.flatten ++ spill <+: (cs.filterMap Callback.piece?).flatten := by
  induction h with
  -- a counted piece is the next of the pieces; headers and ticks write none
  | write _ _ _ _ _ _ _ _ _ ih =>
    simp only [List.flatten_cons, List.append_assoc, List.filterMap_cons, Callback.piece?]
    exact (List.prefix_append_right_inj _).2 ih
  | storage =>
    simp only [List.flatten_nil, List.nil_append, List.filterMap_cons, Callback.piece?,
      List.flatten_cons]
    exact (FileTree.kept_prefix _ _).trans (List.prefix_append _ _)
  | countFault | reportFault =>
    simp only [List.flatten_cons, List.flatten_nil, List.append_nil, List.nil_append,
      List.filterMap_cons, Callback.piece?]
    exact List.prefix_append _ _
  | header _ _ _ _ _ ih => exact ih
  | tick _ _ ih => exact ih
  | _ => simp

/-- Bytes reach the file uncounted only from the piece that ended the exchange, when the device
gave out or counting it faulted. -/
theorem Takes.spill_of_ne_nil {acc acc' : World σ × Intake} {cs : List Callback}
    {taken : List (List UInt8)} {spill : List UInt8} (h : k.Takes acc cs taken spill acc')
    (hs : spill ≠ []) :
    (∃ e, acc'.2.refusal = some (.storage e)) ∨ acc'.2.refusal = some (.fault .addOverflow) := by
  induction h with
  | header _ _ _ _ _ ih => exact ih hs
  | tick _ _ ih => exact ih hs
  | write _ _ _ _ _ _ _ _ _ ih => exact ih hs
  | storage files e => exact .inl ⟨e, rfl⟩
  | countFault => exact .inr rfl
  | _ => exact absurd rfl hs

/-- Progress reports are only added, each at the bytes on disk after its piece, so their first
components never decrease. -/
theorem Takes.reports_grow {acc acc' : World σ × Intake} {cs : List Callback}
    {taken : List (List UInt8)} {spill : List UInt8} (h : k.Takes acc cs taken spill acc') :
    ∃ reports, acc'.1.reports = acc.1.reports ++ reports ∧
      (∀ r ∈ reports, k.base + acc.2.written ≤ r.1) ∧ (reports.map Prod.fst).Pairwise (· ≤ ·) := by
  induction h with
  | done => exact ⟨[], by simp, by simp, by simp⟩
  | header _ _ _ _ _ ih => exact ih
  | tick _ _ ih => exact ih
  | @write w i piece short rest taken spill acc' files reports _ _ _ _ _ hr _ ih =>
    obtain ⟨later, hl, hge, hmono⟩ := ih
    -- the piece's own report, if any, is at the bytes on disk after it, before all later ones
    have hat := k.reportOf_eq_ok hr
    refine ⟨reports ++ later, by simp [hl], ?_, ?_⟩
    · intro r hr'
      rcases List.mem_append.1 hr' with hfirst | hlater
      · rw [(hat r hfirst).1]
        dsimp only
        omega
      · have := hge r hlater
        dsimp only at this ⊢
        omega
    · rw [List.map_append, List.pairwise_append]
      refine ⟨?_, hmono, ?_⟩
      · -- a piece makes at most one report
        unfold reportOf at hr
        cases hrep : k.reporting with
        | none =>
          rw [hrep] at hr
          cases hr
          exact List.Pairwise.nil
        | some known =>
          rw [hrep] at hr
          cases hd : addWord k.base (i.written + piece.length) with
          | error f => simp [hd, bind, Except.bind] at hr
          | ok d =>
            cases ht : k.total known i.status i.contentLength with
            | error f => simp [hd, ht, bind, Except.bind] at hr
            | ok t =>
              simp only [hd, ht, bind, Except.bind, pure, Except.pure, Except.ok.injEq] at hr
              subst hr
              simp
      · intro a ha b hb
        obtain ⟨r, hr', rfl⟩ := List.mem_map.1 ha
        obtain ⟨r', hr'', rfl⟩ := List.mem_map.1 hb
        rw [(hat r hr').1]
        exact hge r' hr''
  | _ => exact ⟨[], by simp, by simp, by simp⟩

/-- A sink run from a fresh intake follows its rules, which leave it no other outcome, and so:
the count is the bytes of the pieces counted, never passes the limit and stays a word; a file
that was there receives exactly those pieces, in order, then what reached it of the piece that
ended the exchange, which is nothing unless the device gave out or counting it faulted; all of
these bytes are a front of the pieces written; progress reports are only added, and their first
components never decrease; and once a piece is refused, the exchange fails for the refusal's
reason, whatever code the transfer library broke off with. -/
theorem file_receives_counted_pieces (k : Sink) (cs : List Callback) (w : World σ) :
    ∃ taken spill, k.Takes (w, Intake.fresh) cs taken spill (k.run cs w) ∧
      (∀ taken' spill' acc', k.Takes (w, Intake.fresh) cs taken' spill' acc' →
        taken' = taken ∧ spill' = spill ∧ acc' = k.run cs w) ∧
      (k.run cs w).2.written = taken.flatten.length ∧
      k.Fits (k.run cs w).2.written ∧ (k.run cs w).2.written ≤ u64Max ∧
      (∀ c, w.files.at? k.path = some (.file c) →
        (k.run cs w).1.files.at? k.path = some (.file (c ++ taken.flatten ++ spill))) ∧
      (spill ≠ [] → (∃ e, (k.run cs w).2.refusal = some (.storage e)) ∨
        (k.run cs w).2.refusal = some (.fault .addOverflow)) ∧
      taken.flatten ++ spill <+: (cs.filterMap Callback.piece?).flatten ∧
      (∃ reports, (k.run cs w).1.reports = w.reports ++ reports ∧
        (reports.map Prod.fst).Pairwise (· ≤ ·)) ∧
      ∀ r, (k.run cs w).2.refusal = some r → ∀ code, (k.run cs w).2.failure code = r.failure := by
  obtain ⟨taken, spill, ht⟩ := k.run_takes cs w
  obtain ⟨reports, hr, -, hmono⟩ := ht.reports_grow
  have hwritten : (k.run cs w).2.written = taken.flatten.length := by
    simpa [Intake.fresh] using ht.written_eq
  refine ⟨taken, spill, ht, fun _ _ _ h => h.unique ht, hwritten,
    ht.fits (fun l _ => Nat.zero_le l), ht.written_le (Nat.zero_le _), fun c hc => ht.file_eq hc,
    ht.spill_of_ne_nil, ht.taken_prefix, ⟨reports, hr, hmono⟩,
    fun r hr code => Intake.failure_of_refusal hr code⟩

/-- A sink limited to four bytes, after a `200` line, takes `abc` and refuses `de`: the file
holds the pieces taken, and the exchange fails as an overrun. -/
theorem file_receives_counted_pieces_at_overrun :
    ∃ taken : List (List UInt8), ((⟨"body", 0, some 4, false, none⟩ : Sink).run
        [.header "HTTP/1.1 200 OK", .write none [97, 98, 99] none, .write none [100, 101] none]
        (⟨FileTree.empty.put ["body"] (.file []), (), []⟩ : World Unit)).1.files.at? "body" =
        some (.file taken.flatten) ∧
      ((⟨"body", 0, some 4, false, none⟩ : Sink).run
        [.header "HTTP/1.1 200 OK", .write none [97, 98, 99] none, .write none [100, 101] none]
        (⟨FileTree.empty.put ["body"] (.file []), (), []⟩ : World Unit)).2.failure writeError =
        .protocol "response body is longer than the requested range" := by
  obtain ⟨taken, spill, ht, -, -, -, -, hfile, hspill, -, -, hfail⟩ :=
    file_receives_counted_pieces (⟨"body", 0, some 4, false, none⟩ : Sink)
      [.header "HTTP/1.1 200 OK", .write none [97, 98, 99] none, .write none [100, 101] none]
      (⟨FileTree.empty.put ["body"] (.file []), (), []⟩ : World Unit)
  have hrefusal : ((⟨"body", 0, some 4, false, none⟩ : Sink).run
      [.header "HTTP/1.1 200 OK", .write none [97, 98, 99] none, .write none [100, 101] none]
      (⟨FileTree.empty.put ["body"] (.file []), (), []⟩ : World Unit)).2.refusal = some .overrun := by
    decide +kernel
  -- an overrun leaves nothing uncounted
  have hnil : spill = [] := by
    by_contra hne
    rcases hspill hne with ⟨e, he⟩ | he <;> rw [hrefusal] at he <;> cases he
  refine ⟨taken, ?_, hfail .overrun hrefusal writeError⟩
  simpa [hnil] using hfile [] (by decide)

/- A reporting sink 100 bytes into a file reports each piece of a `206` answer at the bytes on
disk, against the total of what was there and the answer's length. -/
example : ((⟨"body", 100, none, false, some 0⟩ : Sink).run
    [.header "HTTP/1.1 206 Partial Content", .header "Content-Length: 6",
      .write none [97, 98, 99] none, .write none [100, 101, 102] none]
    (⟨FileTree.empty.put ["body"] (.file []), (), []⟩ : World Unit)).1.reports =
      [(103, 106), (106, 106)] := by
  decide +kernel

/-- Bytes of writes that did not return their length reach the file. A device that gives out
after two bytes of a three-byte piece leaves those two, and the write is refused for storage.
A reporting sink one byte into a file, with no total known, that meets a `206` whose length past
that byte leaves the word, faults when it reports its first piece, after the file took it. -/
theorem refused_writes_reach_the_file :
    ((⟨"body", 0, none, false, none⟩ : Sink).run
        [.write none [1, 2, 3] (some (2, IoError.os .uncategorized 5 "Input/output error"))]
        (⟨FileTree.empty.put ["body"] (.file []), (), []⟩ : World Unit)).1.files.at? "body" =
        some (.file [1, 2]) ∧
      ((⟨"body", 0, none, false, none⟩ : Sink).run
        [.write none [1, 2, 3] (some (2, IoError.os .uncategorized 5 "Input/output error"))]
        (⟨FileTree.empty.put ["body"] (.file []), (), []⟩ : World Unit)).2 =
        ⟨none, none, 0, some (.storage (IoError.os .uncategorized 5 "Input/output error"))⟩ ∧
      ((⟨"body", 1, none, true, some 0⟩ : Sink).run
        [.header "HTTP/1.1 206 Partial Content", .header "Content-Length: 18446744073709551615",
          .write none [97] none]
        (⟨FileTree.empty.put ["body"] (.file [48]), (), []⟩ : World Unit)).1.files.at? "body" =
        some (.file [48, 97]) ∧
      ((⟨"body", 1, none, true, some 0⟩ : Sink).run
        [.header "HTTP/1.1 206 Partial Content", .header "Content-Length: 18446744073709551615",
          .write none [97] none]
        (⟨FileTree.empty.put ["body"] (.file [48]), (), []⟩ : World Unit)).2 =
        ⟨some 206, some 18446744073709551615, 1, some (.fault .addOverflow)⟩ := by
  decide +kernel

end Sink

end Transfer

end DownloadEngine
