import DownloadEngine.Transfer.Chunk
import DownloadEngine.Proofs.StreamAttempts

/-!
# Chunk files hold fronts of their slices

A server that holds a resource `R` answers a request with a front of the slice the request
asks for; when it ignores the range it answers `200` with a front of `R`; under any other
status it may send anything (`Network.Serves`). Against such servers a chunk's file only ever
holds a front of the chunk's slice of `R`. Opening the file empties it when it is longer than
the chunk, as a file left by another plan is; the request continues after the bytes already
there; the sink takes at most the missing bytes, and takes a `200` only for a range from byte
zero, where the whole resource starts with the slice. A success needs every missing byte, so
it leaves the whole slice.

None of this depends on how the reply arrives, on when a stop signal is raised or on where
the device gives out: the transfer library may cut the body into pieces of any size, another
thread may raise a signal before any attempt, during any backoff and at any piece or tick, and
the device may keep any front of a piece and fail (`Delivers`, `Feed`).

## Main statements

* `Sink.run_appends_front`: callbacks that deliver a reply append a front of its body.
* `ChunkJob.once_kept`: every attempt stops before touching anything, at a signal raised as it
  starts, or leaves the chunk file a front of the slice, and the whole slice after a success.
* `ChunkJob.fetch_keeps_fronts`: the same over the retry loop.
-/

namespace DownloadEngine

/-- The bytes of `R` a request asks for: from `first` to `last` inclusive, or to the end; all
of `R` when it asks for no range. -/
def Request.slice (req : Request) (R : List UInt8) : List UInt8 :=
  match req.range with
  | none => R
  | some ⟨first, none⟩ => R.drop first
  | some ⟨first, some last⟩ => (R.drop first).take (last + 1 - first)

/-- What a server holding `R` may answer to a request. The body under a last status line of
`206`, or under no status line, is a front of the slice asked for; under `200`, which ignores
the range, a front of `R`; under any other status it is anything. -/
def Request.Answered (req : Request) (R : List UInt8) (reply : Reply) : Prop :=
  ((HeaderLine.lastResponse reply.headers).1 = none ∨
      (HeaderLine.lastResponse reply.headers).1 = some 206 → reply.body <+: req.slice R) ∧
    ((HeaderLine.lastResponse reply.headers).1 = some 200 → reply.body <+: R)

/-- A network whose servers hold `R`: every reply is one they may give. Exchanges may still
fail, and bodies may be cut short. -/
def Network.Serves {σ : Type} (net : Network σ) (R : List UInt8) : Prop :=
  ∀ s req reply, (net.exchange s req).2 = .ok reply → req.Answered R reply

/-- The server that answers every request with the whole slice it asks for, under `206`. -/
def Network.slices (R : List UInt8) : Network Unit where
  exchange s req := (s, .ok ⟨206, ["HTTP/1.1 206 Partial Content"], req.slice R, none⟩)
  served _ := []

theorem Network.slices_serves (R : List UInt8) : (Network.slices R).Serves R := by
  intro s req reply h
  cases h
  have hstatus : (HeaderLine.lastResponse ["HTTP/1.1 206 Partial Content"]).1 = some 206 := by
    decide +kernel
  refine ⟨fun _ => List.prefix_refl _, fun h200 => ?_⟩
  rw [hstatus] at h200
  cases h200

/-! ## Fronts of lists -/

theorem prefix_take_of_length_le {α : Type} {a b : List α} (h : a <+: b) {n : Nat}
    (hn : a.length ≤ n) : a <+: b.take n := by
  have heq : b.take a.length = (b.take n).take a.length := by
    rw [List.take_take, Nat.min_eq_left hn]
  rw [List.prefix_iff_eq_take.1 h, heq]
  exact List.take_prefix _ _

/-- A front of a list, followed by a front of what comes after it, is a front of the list. -/
theorem append_prefix_of_prefix_drop {α : Type} {a pre s : List α} (ha : a <+: s)
    (hpre : pre <+: s.drop a.length) : a ++ pre <+: s := by
  obtain ⟨t, rfl⟩ := ha
  rw [List.drop_left] at hpre
  exact List.prefix_append_right_inj a |>.2 hpre

namespace FileTree

variable {t : FileTree} {path : String}

/-- Every directory a walk stands on, and every one above it, is a directory: a name is
walked into only when it is one, and `..` goes to one above. -/
theorem step_prefixes_dir {d d' : List String} {x : String}
    (hd : ∀ q, q <+: d → t.get? q = some .dir) (hs : t.step d x = .ok d') :
    ∀ q, q <+: d' → t.get? q = some .dir := by
  unfold step at hs
  by_cases hx : x = "."
  · rw [if_pos hx] at hs
    cases hs
    exact hd
  rw [if_neg hx] at hs
  by_cases hxx : x = ".."
  · rw [if_pos hxx] at hs
    cases hs
    exact fun q hq => hd q (hq.trans (List.dropLast_prefix d))
  rw [if_neg hxx] at hs
  cases hg : t.get? (d ++ [x]) with
  | none => simp [hg] at hs
  | some e =>
    cases e with
    | file b => simp [hg] at hs
    | dir =>
      simp only [hg, Except.ok.injEq] at hs
      subst hs
      intro q hq
      rcases List.prefix_concat_iff.1 hq with rfl | hq
      · exact hg
      · exact hd q hq

theorem foldlM_step_prefixes_dir (l : List String) {d d' : List String}
    (hd : ∀ q, q <+: d → t.get? q = some .dir) (hl : l.foldlM t.step d = .ok d') :
    ∀ q, q <+: d' → t.get? q = some .dir := by
  induction l generalizing d with
  | nil =>
    cases hl
    exact hd
  | cons x l ih =>
    rw [List.foldlM_cons] at hl
    cases hs : t.step d x with
    | error e =>
      rw [hs] at hl
      cases hl
    | ok d₁ =>
      rw [hs] at hl
      exact ih (step_prefixes_dir hd hs) hl

/-- A walk stands on a directory, and every directory above it is one. -/
theorem locate_prefixes_dir {p : Place} (hp : t.locate path = .ok p) :
    ∀ q, q <+: p.dir → t.get? q = some .dir := by
  have hroot : ∀ q : List String, q <+: [] → t.get? q = some .dir := fun q hq => by
    rw [List.prefix_nil.1 hq]
    exact get?_nil t
  unfold locate at hp
  split at hp
  · cases hp
    exact hroot
  · cases hl : List.foldlM t.step [] _ with
    | error e =>
      rw [hl] at hp
      cases hp
    | ok d =>
      rw [hl] at hp
      cases hp
      exact foldlM_step_prefixes_dir _ hroot hl

/-- A walk that reaches a file ends in a name: `.` and `..` name directories. -/
theorem locate_tail_of_file {p : Place} {b : List UInt8} (hp : t.locate path = .ok p)
    (hf : t.get? p.names = some (.file b)) : ∃ n, p.tail = .name n := by
  have hdirs := locate_prefixes_dir hp
  cases ht : p.tail with
  | name n => exact ⟨n, rfl⟩
  | here =>
    have hdir := hdirs p.dir (List.prefix_refl _)
    simp only [Place.names, ht] at hf
    rw [hf] at hdir
    cases hdir
  | up =>
    have hdir := hdirs p.dir.dropLast (List.dropLast_prefix _)
    simp only [Place.names, ht] at hf
    rw [hf] at hdir
    cases hdir

/-- A file that can be read can be written: its place and bytes. -/
theorem writable_of_file {b : List UInt8} (h : t.at? path = some (.file b)) :
    ∃ ns, t.writable path = .ok (ns, some b) := by
  obtain ⟨p, hp, hg, hs⟩ := at?_eq_some_file h
  obtain ⟨n, hn⟩ := locate_tail_of_file hp hg
  refine ⟨p.names, ?_⟩
  unfold writable
  rw [hp]
  dsimp only [bind, Except.bind]
  rw [hn]
  dsimp only
  rw [hg]
  simp only [hs, Bool.false_eq_true, if_false]
  rfl

/-- The length of what a path opens to: a file's bytes, or a directory's fixed length. -/
theorem at?_of_length {n : Nat} (h : t.length path = .ok n) :
    (∃ b, t.at? path = some (.file b) ∧ n = b.length) ∨
      (t.at? path = some .dir ∧ n = directoryLength) := by
  unfold length at h
  unfold at?
  cases ho : t.openRead path with
  | error e =>
    rw [ho] at h
    cases h
  | ok e =>
    rw [ho] at h
    cases e with
    | file b =>
      cases h
      exact .inl ⟨b, rfl, rfl⟩
    | dir =>
      cases h
      exact .inr ⟨rfl, rfl⟩

theorem at?_of_length_error {e : IoError} (h : t.length path = .error e) : t.at? path = none := by
  unfold length at h
  unfold at?
  cases ho : t.openRead path with
  | error e' => rfl
  | ok x =>
    rw [ho] at h
    cases x <;> cases h

theorem length_of_file {b : List UInt8} (h : t.at? path = some (.file b)) :
    t.length path = .ok b.length := by
  unfold at? at h
  unfold length
  cases ho : t.openRead path with
  | error e =>
    rw [ho] at h
    cases h
  | ok x =>
    rw [ho] at h
    cases h
    rfl

/-- Writing a file where one can be written makes the path read the bytes written. -/
theorem at?_writeFile {u : FileTree} {bs : List UInt8} (h : t.writeFile path bs = .ok u) :
    ∃ o : Option (List UInt8), t.at? path = o.map .file ∧ u.at? path = some (.file bs) := by
  rw [writeFile_eq] at h
  cases hw : t.writable path with
  | error e =>
    rw [hw] at h
    cases h
  | ok x =>
    obtain ⟨ns, o⟩ := x
    obtain ⟨p, hp, rfl, hs, hnd, hne, hat⟩ := at?_of_writable hw
    rw [hw] at h
    cases h
    exact ⟨o, hat, at?_put_file hp hs hnd hne bs⟩

end FileTree

namespace Transfer

open FileTree

/-! ## Opening a chunk file -/

/-- Opening a chunk file of `len` bytes: what stood there was a file, or nothing (read as no
bytes); a file longer than `len` is emptied and counts none, any other is kept and counts its
bytes. -/
theorem openChunkFile_eq_ok {t u : FileTree} {path : String} {len held : Nat}
    (h : openChunkFile t path len = .ok (u, held)) :
    ∃ old, (t.at? path = some (.file old) ∨ t.at? path = none ∧ old = []) ∧
      ((len < old.length ∧ held = 0 ∧ u.at? path = some (.file [])) ∨
        (old.length ≤ len ∧ held = old.length ∧ u.at? path = some (.file old))) := by
  unfold openChunkFile at h
  simp only [bind, Except.bind, pure, Except.pure, throw, throwThe, MonadExceptOf.throw] at h
  cases hl : t.length path with
  | error e =>
    rw [hl] at h
    by_cases hk : e.kind = .notFound
    · -- nothing stood there: the file is created empty
      simp only [hk, if_true] at h
      have hnone := at?_of_length_error hl
      rw [if_neg (Nat.not_lt_zero len)] at h
      obtain ⟨⟨u₀, n⟩, ha, h⟩ := Controller.Except.ok_of_bind_eq_ok h
      obtain ⟨old, hbefore, rfl, hu₀⟩ := openAppend_ok ha
      have hold : old = [] := by
        rcases hbefore with hf | ⟨-, hold⟩
        · rw [hnone] at hf
          cases hf
        · exact hold
      subst hold
      simp only [Except.ok.injEq, Prod.mk.injEq] at h
      obtain ⟨rfl, rfl⟩ := h
      exact ⟨[], .inr ⟨hnone, rfl⟩, .inr ⟨Nat.zero_le _, rfl, hu₀⟩⟩
    · simp only [hk, if_false] at h
      cases h
  | ok n =>
    rw [hl] at h
    dsimp only at h
    rcases at?_of_length hl with ⟨b, hb, rfl⟩ | ⟨hdir, rfl⟩
    · by_cases hgt : b.length > len
      · -- a file of another plan: emptied
        rw [if_pos hgt] at h
        obtain ⟨u₀, hwf, h⟩ := Controller.Except.ok_of_bind_eq_ok h
        simp only [Except.ok.injEq, Prod.mk.injEq] at h
        obtain ⟨rfl, rfl⟩ := h
        obtain ⟨-, -, hu⟩ := at?_writeFile hwf
        exact ⟨b, .inl hb, .inl ⟨hgt, rfl, hu⟩⟩
      · rw [if_neg hgt] at h
        obtain ⟨⟨u₀, n⟩, ha, h⟩ := Controller.Except.ok_of_bind_eq_ok h
        obtain ⟨old, hbefore, rfl, hu₀⟩ := openAppend_ok ha
        have hold : old = b := by
          rcases hbefore with hf | ⟨hn, -⟩
          · rw [hb] at hf
            cases hf
            rfl
          · rw [hb] at hn
            cases hn
        subst hold
        simp only [Except.ok.injEq, Prod.mk.injEq] at h
        obtain ⟨rfl, rfl⟩ := h
        exact ⟨old, .inl hb, .inr ⟨by omega, rfl, hu₀⟩⟩
    · -- a directory can be neither emptied nor opened for appending
      exfalso
      by_cases hgt : directoryLength > len
      · rw [if_pos hgt] at h
        obtain ⟨u₀, hwf, -⟩ := Controller.Except.ok_of_bind_eq_ok h
        obtain ⟨o, hat, -⟩ := at?_writeFile hwf
        rw [hdir] at hat
        cases o <;> cases hat
      · rw [if_neg hgt] at h
        obtain ⟨⟨u₀, n⟩, ha, -⟩ := Controller.Except.ok_of_bind_eq_ok h
        obtain ⟨old, hbefore, -, -⟩ := openAppend_ok ha
        rw [hdir] at hbefore
        rcases hbefore with hf | ⟨hn, -⟩
        · cases hf
        · cases hn

/-- A file that can be read can be opened as a chunk file. -/
theorem openChunkFile_of_file {t : FileTree} {path : String} {b : List UInt8}
    (hb : t.at? path = some (.file b)) (len : Nat) :
    ∃ u held, openChunkFile t path len = .ok (u, held) := by
  obtain ⟨ns, hw⟩ := writable_of_file hb
  unfold openChunkFile
  simp only [bind, Except.bind, pure, Except.pure, length_of_file hb]
  by_cases hgt : b.length > len
  · rw [if_pos hgt, writeFile_eq, hw]
    exact ⟨_, _, rfl⟩
  · rw [if_neg hgt]
    unfold openAppend
    rw [hw]
    exact ⟨_, _, rfl⟩

/-! ## What a sink appends -/

/-- The header line a callback hands over, if it is one. -/
def Callback.line? : Callback → Option String
  | .header line => some line
  | _ => none

/-- Callbacks hand a reply over as the transfer library does: every header line of the reply,
in order, before any piece of its body; then the body, in pieces of any size; progress ticks
anywhere, each tick and piece under whatever signal the token carries at that moment, and each
piece whatever the device does with it. -/
def Delivers (reply : Reply) (cbs : List Callback) : Prop :=
  ∃ front back, cbs = front ++ back ∧ front.filterMap Callback.line? = reply.headers ∧
    front.filterMap Callback.piece? = [] ∧ back.filterMap Callback.line? = [] ∧
    (back.filterMap Callback.piece?).flatten = reply.body

/-- The callbacks of a reply cut into pieces of one size, all under one signal, deliver it. -/
theorem delivers_callbacks (signal : Option Signal) (size : Nat) (reply : Reply) :
    Delivers reply (Sink.callbacks signal size reply) := by
  refine ⟨reply.headers.map .header, (pieces size reply.body).map fun piece => .write signal piece none,
    rfl, ?_, ?_, ?_, ?_⟩
  all_goals simp [List.filterMap_map, Function.comp_def, Callback.line?, Callback.piece?]
  exact flatten_pieces size reply.body

namespace Sink

variable {σ : Type} (k : Sink)

/-- A progress tick writes nothing and leaves the status as it was. -/
theorem tick_keeps (signal : Option Signal) (acc : World σ × Intake) :
    (tick signal acc).1 = acc.1 ∧ (tick signal acc).2.written = acc.2.written ∧
      (tick signal acc).2.status = acc.2.status := by
  obtain ⟨w, i⟩ := acc
  unfold tick
  by_cases hi : i.refusal.isSome
  · simp [hi]
  · cases signal <;> simp [hi]

/-- A tick that leaves nothing refused changes nothing: a raised signal would refuse. -/
theorem tick_eq_of_refusal {signal : Option Signal} {acc : World σ × Intake}
    (h : (tick signal acc).2.refusal = none) : tick signal acc = acc := by
  obtain ⟨w, i⟩ := acc
  unfold tick at h ⊢
  by_cases hi : i.refusal.isSome
  · simp [hi]
  · cases signal <;> simp_all

/-- Under a status that lets no piece through, a piece leaves the world, the count and the
status as they were. -/
theorem takePiece_of_not_allows (signal : Option Signal) (short : Option (Nat × IoError))
    (acc : World σ × Intake) (piece : List UInt8) (h : ¬ k.Allows acc.2.status) :
    (k.takePiece signal short acc piece).1 = acc.1 ∧
      (k.takePiece signal short acc piece).2.written = acc.2.written ∧
      (k.takePiece signal short acc piece).2.status = acc.2.status := by
  obtain ⟨w, i⟩ := acc
  obtain ⟨r, hr⟩ : ∃ r, k.checkStatus i.status = some r :=
    Option.ne_none_iff_exists'.1 fun hc => h ((k.checkStatus_eq_none_iff _).1 hc)
  unfold takePiece
  by_cases hi : i.refusal.isSome
  · simp [hi]
  · cases signal <;> simp [hi, hr]

/-- Under a status that lets no piece through, the pieces of a body leave the world and the
count as they were: each is refused, or skipped after an earlier refusal. -/
theorem foldl_takePiece_of_not_allows (signal : Option Signal) (short : Option (Nat × IoError))
    (ps : List (List UInt8)) :
    ∀ acc : World σ × Intake, ¬ k.Allows acc.2.status →
      (ps.foldl (k.takePiece signal short) acc).1 = acc.1 ∧
        (ps.foldl (k.takePiece signal short) acc).2.written = acc.2.written := by
  induction ps with
  | nil => exact fun _ _ => ⟨rfl, rfl⟩
  | cons piece rest ih =>
    intro acc h
    obtain ⟨h₁, h₂, h₃⟩ := k.takePiece_of_not_allows signal short acc piece h
    obtain ⟨ih₁, ih₂⟩ := ih _ (by rw [h₃]; exact h)
    rw [List.foldl_cons]
    exact ⟨ih₁.trans h₁, ih₂.trans h₂⟩

/-- A callback that hands over no piece writes nothing. -/
theorem feed_of_no_piece (acc : World σ × Intake) {c : Callback} (hc : c.piece? = none) :
    (k.feed acc c).1 = acc.1 ∧ (k.feed acc c).2.written = acc.2.written := by
  cases c with
  | header line =>
    obtain ⟨w, i⟩ := acc
    by_cases hi : i.refusal.isSome <;> simp [feed, header, hi]
  | write signal piece short => simp [Callback.piece?] at hc
  | progress signal => exact ⟨(tick_keeps signal acc).1, (tick_keeps signal acc).2.1⟩

/-- Callbacks that hand over no piece write nothing; while nothing is refused, the status is
that of the last response among their header lines. -/
theorem foldl_feed_of_no_pieces (cs : List Callback) (hcs : cs.filterMap Callback.piece? = []) :
    ∀ acc : World σ × Intake, (cs.foldl k.feed acc).1 = acc.1 ∧
      (cs.foldl k.feed acc).2.written = acc.2.written ∧
      ((cs.foldl k.feed acc).2.refusal = none →
        (cs.foldl k.feed acc).2.status = ((cs.filterMap Callback.line?).foldl HeaderLine.absorb
          (acc.2.status, acc.2.contentLength)).1) := by
  induction cs with
  | nil => exact fun _ => ⟨rfl, rfl, fun _ => rfl⟩
  | cons c rest ih =>
    intro acc
    have hc : c.piece? = none := by
      cases c <;> simp_all [Callback.piece?]
    have hrest : rest.filterMap Callback.piece? = [] := by
      simpa [List.filterMap_cons, hc] using hcs
    obtain ⟨h₁, h₂⟩ := k.feed_of_no_piece acc hc
    rw [List.foldl_cons]
    by_cases hr : (k.feed acc c).2.refusal.isSome
    · -- once a callback is refused, the rest is skipped and the implication is void
      rw [k.foldl_feed_of_refused hr rest]
      exact ⟨h₁, h₂, fun h => by simp [h] at hr⟩
    obtain ⟨ih₁, ih₂, ih₃⟩ := ih hrest (k.feed acc c)
    refine ⟨ih₁.trans h₁, ih₂.trans h₂, fun h => (ih₃ h).trans ?_⟩
    -- a header line moves the status as the last response so far; a tick moves nothing
    cases c with
    | write signal piece short => simp [Callback.piece?] at hc
    | header line =>
      obtain ⟨w, i⟩ := acc
      by_cases hi : i.refusal.isSome
      · simp [feed, header, hi] at hr
      have hstep : k.feed (w, i) (.header line) =
          (w, { i with status := (HeaderLine.absorb (i.status, i.contentLength) line).1
                       contentLength := (HeaderLine.absorb (i.status, i.contentLength) line).2 }) := by
        simp only [feed, header, hi, Bool.false_eq_true, if_false]
      rw [hstep]
      simp only [List.filterMap_cons, Callback.line?, List.foldl_cons, Prod.eta]
    | progress signal =>
      have hstep : k.feed acc (.progress signal) = acc :=
        tick_eq_of_refusal (Option.not_isSome_iff_eq_none.1 hr)
      rw [hstep]
      simp only [List.filterMap_cons, Callback.line?]

/-- Under a status that lets no piece through, callbacks with no header line among them leave
the world and the count as they were. -/
theorem foldl_feed_of_not_allows (cs : List Callback) (hcs : cs.filterMap Callback.line? = []) :
    ∀ acc : World σ × Intake, ¬ k.Allows acc.2.status →
      (cs.foldl k.feed acc).1 = acc.1 ∧ (cs.foldl k.feed acc).2.written = acc.2.written := by
  induction cs with
  | nil => exact fun _ _ => ⟨rfl, rfl⟩
  | cons c rest ih =>
    intro acc h
    have hrest : rest.filterMap Callback.line? = [] := by
      cases c <;> simp_all [Callback.line?]
    -- what is left are pieces and ticks: neither writes, nor moves the status
    have hstep : (k.feed acc c).1 = acc.1 ∧ (k.feed acc c).2.written = acc.2.written ∧
        (k.feed acc c).2.status = acc.2.status := by
      cases c with
      | header line => simp [Callback.line?] at hcs
      | write signal piece short => exact k.takePiece_of_not_allows signal short acc piece h
      | progress signal => exact tick_keeps signal acc
    obtain ⟨h₁, h₂, h₃⟩ := hstep
    obtain ⟨ih₁, ih₂⟩ := ih hrest _ (by rw [h₃]; exact h)
    rw [List.foldl_cons]
    exact ⟨ih₁.trans h₁, ih₂.trans h₂⟩

/-- Callbacks that deliver a reply, taken through a sink whose file is there, append to it a
front of the body, within the limit, as many bytes as the sink counts when it refused nothing,
and nothing at all when the last response's status lets no piece through. -/
theorem run_appends_front {reply : Reply} {cbs : List Callback} (hd : Delivers reply cbs)
    (w : World σ) {c : List UInt8} (hc : w.files.at? k.path = some (.file c)) :
    ∃ pre, (k.run cbs w).1.files.at? k.path = some (.file (c ++ pre)) ∧
      pre <+: reply.body ∧ ((k.run cbs w).2.refusal = none → (k.run cbs w).2.written = pre.length) ∧
      k.Fits pre.length ∧ (pre ≠ [] → k.Allows (HeaderLine.lastResponse reply.headers).1) := by
  obtain ⟨front, back, rfl, hlines, hnopiece, hnoline, hbody⟩ := hd
  obtain ⟨taken, spill, ht⟩ := k.run_takes (front ++ back) w
  have hwritten : (k.run (front ++ back) w).2.written = taken.flatten.length := by
    simpa only [Intake.fresh, Nat.zero_add] using ht.written_eq
  have hfile : (k.run (front ++ back) w).1.files.at? k.path =
      some (.file (c ++ (taken.flatten ++ spill))) := by
    rw [← List.append_assoc]
    exact ht.file_eq hc
  refine ⟨taken.flatten ++ spill, hfile, ?_, fun hr => ?_, ?_, fun hne => ?_⟩
  · have hpre := ht.taken_prefix
    rwa [List.filterMap_append, hnopiece, List.nil_append, hbody] at hpre
  · -- with nothing refused, nothing reached the file uncounted
    have hspill : spill = [] := by
      by_contra hne
      rcases ht.spill_of_ne_nil hne with ⟨e, he⟩ | he <;> rw [hr] at he <;> cases he
    rw [hwritten, hspill, List.append_nil]
  · simpa [Intake.fresh] using ht.fits_spill (fun l _ => Nat.zero_le l)
  · by_contra hno
    -- the header lines come first and write nothing; under their status the body writes nothing
    obtain ⟨h₁, -, h₃⟩ := k.foldl_feed_of_no_pieces front hnopiece (w, Intake.fresh)
    have hsame : (k.run (front ++ back) w).1 = w := by
      rw [run, List.foldl_append]
      by_cases hr : (front.foldl k.feed (w, Intake.fresh)).2.refusal.isSome
      · rw [k.foldl_feed_of_refused hr]
        exact h₁
      · have hstatus := h₃ (Option.not_isSome_iff_eq_none.1 hr)
        rw [hlines] at hstatus
        rw [(k.foldl_feed_of_not_allows back hnoline _ (by rw [hstatus]; exact hno)).1]
        exact h₁
    rw [hsame, hc] at hfile
    exact hne (by simpa using hfile)

end Sink

/-! ## Chunk files -/

namespace ChunkJob

variable {σ : Type}

/-- The chunk's bytes of `R`: `size` bytes from its start. -/
def slice (job : ChunkJob) (R : List UInt8) : List UInt8 := (R.drop job.range.start).take job.size

/-- The chunk file is missing, or holds a front of the chunk's slice. -/
def Holds (job : ChunkJob) (R : List UInt8) (files : FileTree) : Prop :=
  files.at? job.path = none ∨ ∃ b, files.at? job.path = some (.file b) ∧ b <+: job.slice R

/-- Where a fetch may start: the chunk file holds, or it is longer than the chunk, as a file left
by another plan is. -/
def Starts (job : ChunkJob) (R : List UInt8) (files : FileTree) : Prop :=
  job.Holds R files ∨ ∃ b, files.at? job.path = some (.file b) ∧ job.size < b.length

/-- What an attempt did: it stopped before touching anything, at a raised stop signal; or the
chunk file holds afterwards, and holds the whole slice after a success. -/
def Kept (job : ChunkJob) (R : List UInt8) (signal : Option Signal) (w w' : World σ)
    (r : Except TransferFailure Unit) : Prop :=
  (w' = w ∧ ∃ s, signal = some s ∧ r = .error (.interrupted s)) ∨
    (job.Holds R w'.files ∧ (r = .ok () → w'.files.at? job.path = some (.file (job.slice R))))

theorem length_slice_le (job : ChunkJob) (R : List UInt8) : (job.slice R).length ≤ job.size :=
  List.length_take_le _ _

/-- A chunk file that holds is never longer than the chunk. -/
theorem Holds.length_le {job : ChunkJob} {R : List UInt8} {files : FileTree} (h : job.Holds R files)
    {b : List UInt8} (hb : files.at? job.path = some (.file b)) : b.length ≤ job.size := by
  rcases h with hn | ⟨b', hb', hpre⟩
  · rw [hn] at hb
    cases hb
  · rw [hb] at hb'
    cases hb'
    exact Nat.le_trans hpre.length_le (job.length_slice_le R)

theorem Holds.starts {job : ChunkJob} {R : List UInt8} {files : FileTree} (h : job.Holds R files) :
    job.Starts R files := .inl h

/-- A front of the slice as long as the chunk is the whole slice. -/
theorem eq_slice_of_prefix {job : ChunkJob} {R b : List UInt8} (h : b <+: job.slice R)
    (hl : job.size ≤ b.length) : b = job.slice R :=
  h.eq_of_length_le (Nat.le_trans (job.length_slice_le R) hl)

/-- After `held` bytes, an attempt asks for the rest of the chunk's slice. -/
theorem slice_request (job : ChunkJob) (R : List UInt8) (held : Nat) :
    (job.request held).slice R = (job.slice R).drop held := by
  simp only [request, Request.slice, slice, size, List.drop_take, List.drop_drop]
  congr 1
  omega

theorem check_eq_ok {status wanted written : Nat} (h : check status wanted written = .ok ()) :
    written = wanted := by
  unfold check at h
  by_cases hs : status ≠ 200 ∧ status ≠ 206
  · rw [if_pos hs] at h
    cases h
  · rw [if_neg hs] at h
    by_cases hw : written ≠ wanted
    · rw [if_pos hw] at h
      cases h
    · exact Classical.not_not.1 hw

/-- An attempt whose reply went through the sink succeeds only with every missing byte. -/
theorem settle_eq_ok {wanted : Nat} {reply : Reply} {intake : Intake}
    (h : settle wanted reply intake = .ok ()) : intake.written = wanted := by
  unfold settle at h
  cases hb : intake.breakCode reply.cut with
  | some code =>
    rw [hb] at h
    cases h
  | none =>
    rw [hb] at h
    exact check_eq_ok h

/-- An attempt whose reply went through the sink succeeds only when the sink refused nothing. -/
theorem refusal_of_settle_eq_ok {wanted : Nat} {reply : Reply} {intake : Intake}
    (h : settle wanted reply intake = .ok ()) : intake.refusal = none := by
  unfold settle at h
  cases hb : intake.breakCode reply.cut with
  | none => exact Intake.refusal_of_breakCode hb
  | some code =>
    rw [hb] at h
    cases h

/-- The chunk file after opening, from where a fetch may start: a front of the slice, as many
bytes as the attempt counts held. -/
theorem opened_front {job : ChunkJob} {R : List UInt8} {t u : FileTree} {held : Nat}
    (hs : job.Starts R t) (h : openChunkFile t job.path job.size = .ok (u, held)) :
    ∃ b, u.at? job.path = some (.file b) ∧ b.length = held ∧ b <+: job.slice R := by
  obtain ⟨old, hbefore, hcase⟩ := openChunkFile_eq_ok h
  rcases hcase with ⟨-, rfl, hu⟩ | ⟨hle, rfl, hu⟩
  · exact ⟨[], hu, rfl, List.nil_prefix⟩
  · refine ⟨old, hu, rfl, ?_⟩
    -- a kept file was missing or held a front already; a longer one would have been emptied
    rcases hs with (hn | ⟨b, hb, hpre⟩) | ⟨b, hb, hlt⟩
    · rcases hbefore with hf | ⟨-, rfl⟩
      · rw [hn] at hf
        cases hf
      · exact List.nil_prefix
    · rcases hbefore with hf | ⟨hn, -⟩
      · rw [hb] at hf
        cases hf
        exact hpre
      · rw [hb] at hn
        cases hn
    · rcases hbefore with hf | ⟨hn, -⟩
      · rw [hb] at hf
        cases hf
        omega
      · rw [hb] at hn
        cases hn

/-- What the sink of an attempt after the front `b` appends keeps the file a front of the
slice: under `206`, or no status line, it is a front of the rest of the slice; a `200` passes
only for a range from byte zero, where the resource starts with the slice; and it is never
longer than the bytes missing. -/
theorem append_front {job : ChunkJob} {R b pre : List UInt8} {reply : Reply}
    (hans : (job.request b.length).Answered R reply) (hb : b <+: job.slice R)
    (hpre : pre <+: reply.body) (hfits : (job.sink b.length).Fits pre.length)
    (hallow : pre ≠ [] → (job.sink b.length).Allows (HeaderLine.lastResponse reply.headers).1) :
    b ++ pre <+: job.slice R := by
  by_cases hnil : pre = []
  · rw [hnil, List.append_nil]
    exact hb
  rcases hallow hnil with hs | hs | ⟨hs, hp⟩
  · exact append_prefix_of_prefix_drop hb
      (slice_request job R b.length ▸ hpre.trans (hans.1 (.inl hs)))
  · exact append_prefix_of_prefix_drop hb
      (slice_request job R b.length ▸ hpre.trans (hans.1 (.inr hs)))
  · -- a `200` for a range from byte zero: nothing was held, and the chunk starts the resource
    have hzero : job.range.start = 0 ∧ b.length = 0 := by
      simp only [sink, decide_eq_false_iff_not, Nat.not_lt, Nat.le_zero, Nat.add_eq_zero_iff] at hp
      exact hp
    rw [List.length_eq_zero_iff.1 hzero.2, List.nil_append]
    have hle : pre.length ≤ job.size := by
      have := hfits _ rfl
      omega
    have hslice : job.slice R = R.take job.size := by
      rw [slice, hzero.1, List.drop_zero]
    rw [hslice]
    exact prefix_take_of_length_le (hpre.trans (hans.2 hs)) hle

/-- Every attempt at a chunk, against servers that hold `R`, from where a fetch may start, keeps
the contract `Kept`: it stops before touching anything, at a signal raised as it starts, or it
leaves the chunk file a front of the slice, and the whole slice when it succeeds. This holds
however the reply is delivered, whatever signals its pieces and ticks come with, and wherever
the device gives out. -/
theorem once_kept (net : Network σ) (R : List UInt8) (hnet : net.Serves R) (job : ChunkJob)
    (signal : Option Signal) {deliver : Reply → List Callback}
    (hdeliver : ∀ reply, Delivers reply (deliver reply)) {w : World σ}
    (hw : job.Starts R w.files) :
    job.Kept R signal w (job.once net signal deliver w).1 (job.once net signal deliver w).2 := by
  cases signal with
  | some s => exact .inl ⟨rfl, s, rfl, rfl⟩
  | none =>
  right
  cases hopen : openChunkFile w.files job.path job.size with
  | error e =>
    -- only a missing file fails to open, and it stays missing
    have hstep : job.once net none deliver w = (w, .error (.storage e)) := by simp only [once, hopen]
    rw [hstep]
    refine ⟨?_, fun h => by cases h⟩
    rcases hw with hh | ⟨b, hb, -⟩
    · exact hh
    · obtain ⟨u, held, hok⟩ := openChunkFile_of_file hb job.size
      rw [hok] at hopen
      cases hopen
  | ok opened =>
    obtain ⟨files, held⟩ := opened
    obtain ⟨b, hb, rfl, hfront⟩ := opened_front hw hopen
    by_cases hfull : b.length = job.size
    · -- nothing is missing: the file is the whole slice
      have hstep : job.once net none deliver w = ({ w with files }, .ok ()) := by
        simp only [once, hopen, hfull, if_true]
      rw [hstep]
      exact ⟨.inr ⟨b, hb, hfront⟩, fun _ => eq_slice_of_prefix hfront (by omega) ▸ hb⟩
    cases hx : net.exchange w.servers (job.request b.length) with
    | mk servers answer =>
    cases answer with
    | error code =>
      -- the exchange failed: the file stays as opened
      have hstep : job.once net none deliver w =
          ({ w with files, servers }, .error (ignoredRange (.library code))) := by
        simp only [once, hopen, hfull, if_false, World.exchange, hx]
      rw [hstep]
      exact ⟨.inr ⟨b, hb, hfront⟩, fun h => by cases h⟩
    | ok reply =>
      have hans : (job.request b.length).Answered R reply := hnet w.servers _ reply (by rw [hx])
      have hstep : job.once net none deliver w =
          (((job.sink b.length).run (deliver reply) { w with files, servers }).1,
            settle (job.size - b.length) reply
              ((job.sink b.length).run (deliver reply) { w with files, servers }).2) := by
        simp only [once, hopen, hfull, if_false, World.exchange, hx]
      obtain ⟨pre, hfile, hpre, hwritten, hfits, hallow⟩ := (job.sink b.length).run_appends_front
        (hdeliver reply) { w with files, servers } hb
      have happ := append_front hans hfront hpre hfits hallow
      rw [hstep]
      refine ⟨.inr ⟨b ++ pre, hfile, happ⟩, fun hok => ?_⟩
      -- a success took every missing byte
      have hall := settle_eq_ok hok
      rw [hwritten (refusal_of_settle_eq_ok hok)] at hall
      have hlen : job.size ≤ (b ++ pre).length := by
        rw [List.length_append]
        omega
      rw [← eq_slice_of_prefix happ hlen]
      exact hfile

end ChunkJob

end Transfer

namespace Retry

variable {σ α : Type} {p : Policy} {stopAt : Nat → Option Signal}
  {step : Nat → σ → σ × Except TransferFailure α}

/-- When every attempt from a state in `P` leaves a state in `Q`, and `Q` lies in `P`, a loop
from a state in `P` ends in `Q`: the loop's last state is the one its last attempt left. -/
theorem Settles.of_steps {P Q : σ → Prop} (hstep : ∀ k s, P s → Q (step k s).1)
    (hQP : ∀ s, Q s → P s) {k : Nat} {s : σ} {r : σ × Outcome α}
    (h : Settles p stopAt step k s r) (hs : P s) : Q r.1 := by
  induction h with
  | @success k s s' v hs' =>
    have := hstep k s hs
    rwa [hs'] at this
  | @final k s s' e hs' _ =>
    have := hstep k s hs
    rwa [hs'] at this
  | @stopped k s s' e sig hs' _ _ _ =>
    have := hstep k s hs
    rwa [hs'] at this
  | @retry k s s' e r hs' _ _ _ _ ih =>
    have := hstep k s hs
    rw [hs'] at this
    exact ih (hQP _ this)

/-- When the first attempt leaves a state in `Q`, and every attempt keeps states in `Q`, the
loop ends in `Q`, whatever state it started from. -/
theorem Settles.of_first {Q : σ → Prop} (hstep : ∀ k s, Q s → Q (step k s).1) {k : Nat} {s : σ}
    {r : σ × Outcome α} (h : Settles p stopAt step k s r) (hfirst : Q (step k s).1) : Q r.1 := by
  cases h with
  | success hs' => rwa [hs'] at hfirst
  | final hs' _ => rwa [hs'] at hfirst
  | stopped hs' _ _ _ => rwa [hs'] at hfirst
  | retry hs' _ _ _ hrest =>
    rw [hs'] at hfirst
    exact hrest.of_steps hstep (fun _ h => h) hfirst

/-- When every attempt keeps states in `P`, a loop from a state in `P` that answers a value got
it from an attempt on a state in `P`, which left the loop's last state. -/
theorem Settles.step_of_ok {P : σ → Prop} (hstep : ∀ k s, P s → P (step k s).1) {k : Nat}
    {s : σ} {r : σ × Outcome α} {v : α} (h : Settles p stopAt step k s r) (hs : P s)
    (hv : r.2.result = .ok v) : ∃ m t, P t ∧ step m t = (r.1, .ok v) := by
  induction h with
  | @success k s s' v' hs' =>
    cases hv
    exact ⟨k, s, hs, hs'⟩
  | final _ _ => cases hv
  | stopped _ _ _ _ => cases hv
  | @retry k s s' e r hs' _ _ _ _ ih =>
    have := hstep k s hs
    rw [hs'] at this
    exact ih this hv

end Retry

namespace Transfer

/-- A feed hands every reply over as the transfer library does, at every attempt. -/
def Feed.Faithful (feed : Feed) : Prop := ∀ n reply, Delivers reply (feed.deliver n reply)

/-- A feed that carries one signal throughout and cuts bodies into fixed pieces is faithful. -/
theorem Feed.steady_faithful (signal : Option Signal) : (Feed.steady signal).Faithful :=
  fun _ reply => delivers_callbacks signal chunkPiece reply

namespace ChunkJob

variable {σ : Type} (net : Network σ) (policy : Retry.Policy) (job : ChunkJob) (feed : Feed)

/-- A fetch is the attempt loop over the feed, its answer read off the loop's result. -/
theorem fetch_settles (w : World σ) :
    Retry.Settles policy feed.backoff (fun n v => job.once net (feed.start n) (feed.deliver n) v)
      1 w (Retry.runOn policy feed.backoff
        (fun n v => job.once net (feed.start n) (feed.deliver n) v) w) :=
  Retry.runOnFrom_settles policy _ _ 1 w policy.maxAttempts (by omega)

theorem fetch_fst (w : World σ) :
    (job.fetch net policy feed w).1 = (Retry.runOn policy feed.backoff
      (fun n v => job.once net (feed.start n) (feed.deliver n) v) w).1 := rfl

theorem fetch_eq_done {w : World σ} (h : (job.fetch net policy feed w).2 = .done) :
    (Retry.runOn policy feed.backoff
      (fun n v => job.once net (feed.start n) (feed.deliver n) v) w).2.result = .ok () := by
  unfold fetch at h
  cases hr : Retry.runOn policy feed.backoff
      (fun n v => job.once net (feed.start n) (feed.deliver n) v) w with
  | mk v o =>
    rw [hr] at h
    dsimp only at h
    cases hres : o.result with
    | ok u => rfl
    | error f =>
      rw [hres] at h
      cases f <;> simp at h

/-- When the token carries a signal as the first attempt starts, that attempt stops before
touching anything, and so does the fetch. -/
theorem fetch_of_signal {s : Signal} (hs : feed.start 1 = some s) (w : World σ) :
    job.fetch net policy feed w = (w, .interrupted s) := by
  have hstep : job.once net (feed.start 1) (feed.deliver 1) w = (w, .error (.interrupted s)) := by
    rw [hs]
    rfl
  -- a stop is not worth another attempt: the loop answers the first one
  have hloop : Retry.runOn policy feed.backoff
      (fun n v => job.once net (feed.start n) (feed.deliver n) v) w =
      (w, ⟨.error (.interrupted s), 1⟩) := by
    have h := fetch_settles net policy job feed w
    generalize Retry.runOn policy feed.backoff
      (fun n v => job.once net (feed.start n) (feed.deliver n) v) w = r at h ⊢
    cases h with
    | success hs' => simp [hstep] at hs'
    | final hs' _ =>
      simp only [hstep, Prod.mk.injEq, Except.error.injEq] at hs'
      obtain ⟨rfl, rfl⟩ := hs'
      rfl
    | stopped hs' ht _ _ =>
      simp only [hstep, Prod.mk.injEq, Except.error.injEq] at hs'
      rw [← hs'.2] at ht
      cases ht
    | retry hs' ht _ _ _ =>
      simp only [hstep, Prod.mk.injEq, Except.error.injEq] at hs'
      rw [← hs'.2] at ht
      cases ht
  unfold fetch
  rw [hloop]

/-- Fetching a chunk from servers that hold `R`, starting from a chunk file that is missing, a
front of the chunk's slice, or longer than the chunk, under a feed that delivers every reply
faithfully and carries whatever signals another thread raises at each check. Every attempt
from such a file stops before touching anything, at a signal raised as it starts, or leaves
the file a front of the slice, hence never longer than the chunk, and the whole slice when it
succeeds. When the first attempt starts under no signal, the fetch ends with the file so; under
a signal it stops before touching anything. A fetch that is done leaves the file equal to the
chunk's slice. -/
theorem fetch_keeps_fronts (R : List UInt8) (hnet : net.Serves R) (hfeed : feed.Faithful)
    (w : World σ) (hw : job.Starts R w.files) :
    (∀ (n : Nat) (v : World σ), job.Starts R v.files →
      job.Kept R (feed.start n) v (job.once net (feed.start n) (feed.deliver n) v).1
        (job.once net (feed.start n) (feed.deliver n) v).2) ∧
    (feed.start 1 = none → job.Holds R (job.fetch net policy feed w).1.files) ∧
    (∀ s, feed.start 1 = some s → job.fetch net policy feed w = (w, .interrupted s)) ∧
    ((job.fetch net policy feed w).2 = .done →
      (job.fetch net policy feed w).1.files.at? job.path = some (.file (job.slice R))) := by
  have hkept : ∀ (n : Nat) (v : World σ), job.Starts R v.files →
      job.Kept R (feed.start n) v (job.once net (feed.start n) (feed.deliver n) v).1
        (job.once net (feed.start n) (feed.deliver n) v).2 :=
    fun n _ hv => job.once_kept net R hnet (feed.start n) (hfeed n) hv
  -- an attempt from a place to start leaves one, stopped or not
  have hstarts : ∀ (n : Nat) (v : World σ), job.Starts R v.files →
      job.Starts R (job.once net (feed.start n) (feed.deliver n) v).1.files := by
    intro n v hv
    rcases hkept n v hv with ⟨heq, -⟩ | ⟨hheld, -⟩
    · rw [heq]
      exact hv
    · exact hheld.starts
  refine ⟨hkept, fun hsig => ?_, fun s hs => job.fetch_of_signal net policy feed hs w,
    fun hdone => ?_⟩
  · -- the first attempt runs past the token and leaves a file that holds; later ones keep it
    have hfirst : job.Holds R (job.once net (feed.start 1) (feed.deliver 1) w).1.files := by
      rcases hkept 1 w hw with ⟨-, s, hs, -⟩ | ⟨hheld, -⟩
      · rw [hsig] at hs
        cases hs
      · exact hheld
    have hholds : ∀ (n : Nat) (v : World σ), job.Holds R v.files →
        job.Holds R (job.once net (feed.start n) (feed.deliver n) v).1.files := by
      intro n v hv
      rcases hkept n v hv.starts with ⟨heq, -⟩ | ⟨hheld, -⟩
      · rw [heq]
        exact hv
      · exact hheld
    rw [fetch_fst]
    exact (fetch_settles net policy job feed w).of_first
      (Q := fun v : World σ => job.Holds R v.files) hholds hfirst
  · -- a done fetch is its successful attempt, which left the whole slice
    obtain ⟨m, v, hv, hm⟩ := (fetch_settles net policy job feed w).step_of_ok
      (P := fun v : World σ => job.Starts R v.files) hstarts hw
      (fetch_eq_done net policy job feed hdone)
    have hk := hkept m v hv
    rw [hm] at hk
    rcases hk with ⟨-, s, -, hs⟩ | ⟨-, hslice⟩
    · cases hs
    · rw [fetch_fst]
      exact hslice rfl

/-- A chunk file of three bytes, left by another plan, for the chunk of bytes one and two: it is
emptied, and the fetch ends with the chunk's slice. -/
theorem fetch_keeps_fronts_after_other_plan :
    (Network.slices [1, 2, 3, 4]).Serves [1, 2, 3, 4] ∧ (Feed.steady none).Faithful ∧
      (⟨"http://h/r", ⟨0, 1, 2⟩, "c"⟩ : ChunkJob).Starts [1, 2, 3, 4]
        (FileTree.empty.put ["c"] (.file [9, 9, 9])) ∧
      ((⟨"http://h/r", ⟨0, 1, 2⟩, "c"⟩ : ChunkJob).fetch (Network.slices [1, 2, 3, 4])
        ⟨3, ⟨0⟩, ⟨0⟩⟩ (Feed.steady none)
        ⟨FileTree.empty.put ["c"] (.file [9, 9, 9]), (), []⟩).1.files.at? "c" =
        some (.file [2, 3]) := by
  have hserves := Network.slices_serves [1, 2, 3, 4]
  have hfaithful := Feed.steady_faithful none
  have hstarts : (⟨"http://h/r", ⟨0, 1, 2⟩, "c"⟩ : ChunkJob).Starts [1, 2, 3, 4]
      (FileTree.empty.put ["c"] (.file [9, 9, 9])) := .inr ⟨[9, 9, 9], by decide, by decide⟩
  refine ⟨hserves, hfaithful, hstarts, ?_⟩
  exact (fetch_keeps_fronts (Network.slices [1, 2, 3, 4]) ⟨3, ⟨0⟩, ⟨0⟩⟩ _ (Feed.steady none)
    [1, 2, 3, 4] hserves hfaithful ⟨FileTree.empty.put ["c"] (.file [9, 9, 9]), (), []⟩
    hstarts).2.2.2 (by decide +kernel)

end ChunkJob

end Transfer

end DownloadEngine
