import Mathlib.Data.List.Forall2
import DownloadEngine.Transfer.Stream
import DownloadEngine.Proofs.ChunkSlices
import DownloadEngine.Proofs.MergeAtomic
import DownloadEngine.Proofs.PlanTiling

/-!
# Transfer counts stay within the resource

Byte counts on the transfer paths are unsigned 64-bit words, so every sum the engine forms of
them must stay a word and every difference must take a smaller count from a larger one. Against
servers that hold a resource `R`, every count an attempt forms stays within `R`'s length:

* a sink, before each piece its status lets through, has counted at most the bytes before the
  piece, and the server sends at most the bytes of `R` after the sink's base;
* a chunk attempt holds at most the chunk once its file is open, so the bytes still wanted are
  a difference in range, and it asks from a byte inside the chunk;
* a single stream starts at most at the file's length, so its offset and the bytes it counts
  stay within `R`; it takes its shortfall against the total only below the total;
* a merge counts the bytes of the chunk files it has copied, at most the sizes of their ranges.

HTTP servers are those of `Network.Serves`; FTP servers restart where they are asked
(`Network.Restarts`).

## Main statements

* `Sink.sumsWithin_of_le`: a sink's sums stay within a bound that its base and the bodies its
  status lets through stay within.
* `Chunk.copied_le_of_within`: a merge's running count stays within the ranges' sizes.
* `transfer_counts_stay_in_range`: every count the transfer paths form stays within `R`.
-/

namespace DownloadEngine

/-- A network whose FTP servers restart where they are asked: whatever lines come with a reply
to an FTP request, its body is a front of the slice of `R` the request asks for. -/
def Network.Restarts {σ : Type} (net : Network σ) (R : List UInt8) : Prop :=
  ∀ s req reply, req.login.isSome → (net.exchange s req).2 = .ok reply →
    reply.body <+: req.slice R

theorem Network.slices_restarts (R : List UInt8) : (Network.slices R).Restarts R := by
  intro s req reply _ h
  cases h
  exact List.prefix_refl _

namespace Transfer

/-! ## The sums of a sink -/

namespace Sink

variable {σ : Type} (k : Sink)

/-- The sink's state once a reply's header lines and the first `n` pieces of its body are in. -/
def after (signal : Option Signal) (pieceSize : Nat) (reply : Reply) (w : World σ) (n : Nat) :
    World σ × Intake :=
  ((pieces pieceSize reply.body).take n).foldl (k.takePiece signal none)
    (w, ⟨(HeaderLine.lastResponse reply.headers).1, (HeaderLine.lastResponse reply.headers).2,
      0, none⟩)

/-- Every sum a sink forms for a reply stays within `bound`: before each piece that its status
lets through, the bytes written with the piece, and the bytes on disk after it. -/
def SumsWithin (bound : Nat) (signal : Option Signal) (pieceSize : Nat) (reply : Reply)
    (w : World σ) : Prop :=
  ∀ n piece, (pieces pieceSize reply.body)[n]? = some piece →
    k.Allows (k.after signal pieceSize reply w n).2.status →
      k.base + ((k.after signal pieceSize reply w n).2.written + piece.length) ≤ bound

/-- Taking a piece keeps the status and counts at most the piece. -/
theorem takePiece_status_written (signal : Option Signal) (short : Option (Nat × IoError))
    (acc : World σ × Intake) (piece : List UInt8) :
    (k.takePiece signal short acc piece).2.status = acc.2.status ∧
      (k.takePiece signal short acc piece).2.written ≤ acc.2.written + piece.length := by
  obtain ⟨w, i⟩ := acc
  cases hr : i.refusal with
  | some r =>
    -- after a refusal the piece is skipped
    have hskip : k.takePiece signal short (w, i) piece = (w, i) := by simp [takePiece, hr]
    rw [hskip]
    exact ⟨rfl, Nat.le_add_right _ _⟩
  | none =>
    obtain ⟨taken, spill, ht⟩ := k.takes_takePiece (w := w) signal short hr piece
    have hfront : taken.flatten.length ≤ piece.length := by
      have := ht.taken_prefix.length_le
      simp only [List.length_append, List.filterMap_cons, Callback.piece?, List.filterMap_nil,
        List.flatten_cons, List.flatten_nil, List.append_nil] at this
      omega
    refine ⟨(k.takePiece_refusesFor signal short w hr piece).1, ?_⟩
    rw [ht.written_eq]
    exact Nat.add_le_add_left hfront _

/-- Pieces taken in turn keep the status and count at most their bytes. -/
theorem foldl_takePiece_status_written (signal : Option Signal) (short : Option (Nat × IoError))
    (ps : List (List UInt8)) :
    ∀ acc : World σ × Intake, (ps.foldl (k.takePiece signal short) acc).2.status = acc.2.status ∧
      (ps.foldl (k.takePiece signal short) acc).2.written ≤ acc.2.written + ps.flatten.length := by
  induction ps with
  | nil => exact fun acc => ⟨rfl, Nat.le_refl _⟩
  | cons piece rest ih =>
    intro acc
    obtain ⟨hs, hw⟩ := k.takePiece_status_written signal short acc piece
    obtain ⟨hs', hw'⟩ := ih (k.takePiece signal short acc piece)
    rw [List.foldl_cons, List.flatten_cons, List.length_append]
    exact ⟨hs'.trans hs, by omega⟩

theorem after_status (signal : Option Signal) (pieceSize : Nat) (reply : Reply) (w : World σ)
    (n : Nat) :
    (k.after signal pieceSize reply w n).2.status = (HeaderLine.lastResponse reply.headers).1 :=
  (k.foldl_takePiece_status_written signal none _ _).1

/-- Before the `n`-th piece the sink has counted at most the pieces before it, so with that
piece it has counted at most the body. -/
theorem after_written_add_le {signal : Option Signal} {pieceSize : Nat} {reply : Reply}
    (w : World σ) {n : Nat} {piece : List UInt8}
    (h : (pieces pieceSize reply.body)[n]? = some piece) :
    (k.after signal pieceSize reply w n).2.written + piece.length ≤ reply.body.length := by
  have hbefore := (k.foldl_takePiece_status_written signal none
    ((pieces pieceSize reply.body).take n)
    (w, ⟨(HeaderLine.lastResponse reply.headers).1, (HeaderLine.lastResponse reply.headers).2,
      0, none⟩)).2
  -- the first `n + 1` pieces are the first `n` and this one, together a front of the body
  have htake : (pieces pieceSize reply.body).take (n + 1) =
      (pieces pieceSize reply.body).take n ++ [piece] := by
    rw [List.take_add_one, h]
    rfl
  have hfront : ((pieces pieceSize reply.body).take (n + 1)).flatten.length ≤
      reply.body.length := by
    have hsplit := congrArg (fun l => l.flatten.length)
      (List.take_append_drop (n + 1) (pieces pieceSize reply.body))
    simp only [List.flatten_append, List.length_append, flatten_pieces] at hsplit
    omega
  rw [htake, List.flatten_append, List.length_append] at hfront
  simp only [List.flatten_cons, List.flatten_nil, List.append_nil] at hfront
  unfold after
  dsimp only at hbefore
  omega

/-- A sink keeps its sums within `bound` when its base and every body its status lets through
do. -/
theorem sumsWithin_of_le {bound : Nat} {reply : Reply}
    (hb : k.Allows (HeaderLine.lastResponse reply.headers).1 → k.base + reply.body.length ≤ bound)
    (signal : Option Signal) (pieceSize : Nat) (w : World σ) :
    k.SumsWithin bound signal pieceSize reply w := by
  intro n piece hpiece hallow
  rw [after_status] at hallow
  have hcount : (k.after signal pieceSize reply w n).2.written + piece.length ≤
      reply.body.length := k.after_written_add_le w hpiece
  have hbody := hb hallow
  omega

/-- What a sink counts for a reply, on top of its base, stays within `bound` when the base and
every body its status lets through do. -/
theorem take_written_within {bound : Nat} {reply : Reply} (hbase : k.base ≤ bound)
    (hb : k.Allows (HeaderLine.lastResponse reply.headers).1 → k.base + reply.body.length ≤ bound)
    (signal : Option Signal) (pieceSize : Nat) (w : World σ) :
    k.base + (k.take signal pieceSize reply w).2.written ≤ bound := by
  rw [take_eq]
  by_cases hallow : k.Allows (HeaderLine.lastResponse reply.headers).1
  · have hcount := (k.foldl_takePiece_status_written signal none (pieces pieceSize reply.body)
      (w, ⟨(HeaderLine.lastResponse reply.headers).1, (HeaderLine.lastResponse reply.headers).2,
        0, none⟩)).2
    rw [flatten_pieces] at hcount
    have hbody := hb hallow
    dsimp only at hcount
    omega
  · -- nothing gets through, so nothing is counted
    rw [(k.foldl_takePiece_of_not_allows signal none _ _ hallow).2]
    exact hbase

end Sink

/-! ## A chunk attempt -/

/-- An opened chunk file holds at most the chunk. -/
theorem openChunkFile_held_le {t u : FileTree} {path : String} {len held : Nat}
    (h : openChunkFile t path len = .ok (u, held)) : held ≤ len := by
  obtain ⟨old, -, ⟨-, rfl, -⟩ | ⟨hle, rfl, -⟩⟩ := openChunkFile_eq_ok h
  · exact Nat.zero_le _
  · exact hle

namespace ChunkJob

/-- A chunk of a plan of `total` bytes ends inside the resource, so it holds at most `total`
bytes. -/
theorem size_le_of_mem_plan {total concurrency minChunk cpus : Nat} {job : ChunkJob}
    (h : job.range ∈ (Chunk.plan total concurrency minChunk cpus).chunks) :
    job.range.start ≤ job.range.last ∧ job.range.last < total ∧ job.size ≤ total := by
  have hpos : 0 < total := by
    rcases Nat.eq_zero_or_pos total with rfl | hpos
    · simp at h
    · exact hpos
  obtain ⟨hstart, hlast⟩ := Chunk.start_le_last_le concurrency minChunk cpus hpos h
  exact ⟨hstart, hlast, by simp only [size]; omega⟩

/-- After `held` bytes of a chunk within `R`, a body the sink lets through fits the rest of
`R`: a front of the rest of the chunk's slice, or of `R` under a `200` to a request from byte
zero. -/
theorem sink_body_le (R : List UInt8) (job : ChunkJob) {held : Nat} (hheld : held ≤ job.size)
    (hsize : job.size ≤ R.length) {reply : Reply} (hans : (job.request held).Answered R reply) :
    (job.sink held).Allows (HeaderLine.lastResponse reply.headers).1 →
      held + reply.body.length ≤ R.length := by
  have hslice := job.length_slice_le R
  rintro (hstatus | hstatus | ⟨h200, hpartial⟩)
  all_goals first
    | -- a `206`, or no status line: the rest of the slice
      have hbody := (hans.1 (by simp [hstatus])).length_le
      rw [slice_request, List.length_drop] at hbody
      omega
    | -- a `200` gets through only for a request from byte zero
      have hzero : job.range.start + held = 0 := by simpa [sink] using hpartial
      have hbody := (hans.2 h200).length_le
      omega

end ChunkJob

/-! ## A single stream -/

namespace StreamJob

/-- A stream asks for `R` from its offset on. -/
theorem slice_request (job : StreamJob) (R : List UInt8) (offset : Nat) :
    (job.request offset).slice R = R.drop offset := by
  by_cases h : offset > 0
  · simp [request, Request.slice, h]
  · obtain rfl : offset = 0 := by omega
    simp [request, Request.slice]

/-- A stream opened at most at the end of `R` counts, with what a server of `R` sends, at most
`R`: over FTP the server restarts at the offset; over HTTP a `206` or a reply with no status
line continues there, and a `200` gets through only from byte zero. -/
theorem sink_body_le (R : List UInt8) (job : StreamJob) {offset : Nat} (hoff : offset ≤ R.length)
    {reply : Reply}
    (hhttp : job.source.transport = .http → (job.request offset).Answered R reply)
    (hftp : job.source.transport = .ftp → reply.body <+: (job.request offset).slice R) :
    (job.sink offset).Allows (HeaderLine.lastResponse reply.headers).1 →
      offset + reply.body.length ≤ R.length := by
  intro hallow
  have hrest : reply.body <+: (job.request offset).slice R →
      offset + reply.body.length ≤ R.length := by
    intro hpre
    have hbody := hpre.length_le
    rw [slice_request, List.length_drop] at hbody
    omega
  cases ht : job.source.transport with
  | ftp => exact hrest (hftp ht)
  | http =>
    have hans := hhttp ht
    rcases hallow with hstatus | hstatus | ⟨h200, hpartial⟩
    · exact hrest (hans.1 (.inl hstatus))
    · exact hrest (hans.1 (.inr hstatus))
    · -- over HTTP a `200` gets through only from offset zero
      have hzero : offset = 0 := by simpa [sink, ht] using hpartial
      have hbody := (hans.2 h200).length_le
      omega

end StreamJob

end Transfer

/-! ## A merge -/

namespace Chunk

open FileTree

theorem le_foldl_add : ∀ (l : List Nat) (a : Nat), a ≤ l.foldl (· + ·) a
  | [], _ => Nat.le_refl _
  | x :: l, a => Nat.le_trans (Nat.le_add_right a x) (le_foldl_add l (a + x))

theorem foldl_add_take_le (l : List Nat) (n a : Nat) :
    (l.take n).foldl (· + ·) a ≤ l.foldl (· + ·) a := by
  conv_rhs => rw [← List.take_append_drop n l, List.foldl_append]
  exact le_foldl_add _ _

/-- The sizes of a plan's chunks add up to the resource. -/
theorem foldl_size_plan (total concurrency minChunk cpus : Nat) :
    ((plan total concurrency minChunk cpus).chunks.map Range.size).foldl (· + ·) 0 = total := by
  rcases Nat.eq_zero_or_pos total with rfl | hpos
  · simp
  · have hlen := length_plan_chunks concurrency minChunk cpus hpos
    have hcount := chunkCount_pos total concurrency minChunk
    exact (tiles_plan concurrency minChunk cpus hpos).sum_size hpos
      (List.ne_nil_of_length_pos (by omega))

/-- With a stop signal raised, copying succeeds only when there is nothing to copy. -/
theorem foldlM_copyChunk_some (part : String) (s : Signal) {cs : List String}
    {acc r : FileTree × Nat} (h : cs.foldlM (copyChunk part (some s)) acc = .ok r) :
    cs = [] ∧ r = acc := by
  cases cs with
  | nil =>
    cases h
    exact ⟨rfl, rfl⟩
  | cons c rest =>
    obtain ⟨t, w⟩ := acc
    have hstop : copyChunk part (some s) (t, w) c = .error interrupted := rfl
    rw [List.foldlM_cons, hstop] at h
    cases h

/-- Chunk files read in order, each within its range, hold together at most the ranges'
sizes; the running sum is free in the induction. -/
theorem length_le_of_within {t u : FileTree} :
    ∀ {cs : List String} {rs : List Range} {parts : List (List UInt8)},
      List.Forall₂ (fun c r => ∀ b, t.at? c = some (.file b) → b.length ≤ r.size) cs rs →
      (∀ c ∈ cs, t.at? c = u.at? c) → cs.mapM (readChunk u) = .ok parts →
      ∀ a, a + parts.flatten.length ≤ (rs.map Range.size).foldl (· + ·) a
  | [], [], parts, .nil, _, h, a => by
    cases h
    exact Nat.le_refl _
  | c :: cs, r :: rs, parts, .cons hc hrest, hsame, h, a => by
    rw [List.mapM_cons] at h
    obtain ⟨b, hb, h⟩ := Controller.Except.ok_of_bind_eq_ok h
    obtain ⟨bs, hbs, h⟩ := Controller.Except.ok_of_bind_eq_ok h
    cases h
    have hlen := hc b ((hsame c (by simp)).trans (at?_of_readChunk hb))
    have ih := length_le_of_within hrest (fun c' hc' => hsame c' (by simp [hc'])) hbs
      (a + r.size)
    simp only [List.flatten_cons, List.length_append, List.map_cons, List.foldl_cons]
    omega

/-- The running count of a merge: after the first `n` chunk paths are copied into the staging
file, the merge has counted at most the sizes of their ranges, when every chunk file lies
within its range and no chunk path names the staging file. -/
theorem copied_le_of_within {t staged : FileTree} {dest : String} {paths : List String}
    {rs : List Range} (hwf : t.WellFormed) (hsep : ∀ c ∈ paths, ¬ t.SameFile c (partFor dest))
    (hwithin : List.Forall₂ (fun c r => ∀ b, t.at? c = some (.file b) → b.length ≤ r.size)
      paths rs)
    (hstaged : t.writeFile (partFor dest) [] = .ok staged) (stop : Option Signal) {n : Nat}
    {u : FileTree} {written : Nat}
    (h : (paths.take n).foldlM (copyChunk (partFor dest) stop) (staged, 0) = .ok (u, written)) :
    written ≤ (rs.map Range.size).foldl (· + ·) 0 := by
  -- the staging file is a file put into `t`
  obtain ⟨q, hst, hstaged⟩ : ∃ q, Staging t dest q ∧ staged = t.put q.names (.file []) := by
    rw [writeFile_eq] at hstaged
    cases hw : t.writable (partFor dest) with
    | error e =>
      rw [hw] at hstaged
      cases hstaged
    | ok x =>
      obtain ⟨q, hst, -⟩ := staging_of_writable hwf hw
      refine ⟨q, hst, ?_⟩
      have hput := hst.writeFile []
      rw [writeFile_eq, hw] at hput
      rw [hw] at hstaged
      exact Except.ok.inj (hstaged.symm.trans hput)
  subst hstaged
  have hcs : ∀ c ∈ paths.take n, ∀ p, t.locate c = .ok p → p.names ≠ q.names :=
    fun c hc p hp => names_ne_of_not_sameFile (hsep c (List.mem_of_mem_take hc)) hp hst.locate
  cases stop with
  | some s =>
    obtain ⟨-, hr⟩ := foldlM_copyChunk_some (partFor dest) s h
    cases hr
    exact Nat.zero_le _
  | none =>
    rw [foldlM_copyChunk hst.locate hst.slash hst.names_ne_nil hst.not_dir _ hcs [] 0] at h
    cases hm : (paths.take n).mapM (readChunk (t.put q.names (.file []))) with
    | error e =>
      rw [hm] at h
      cases h
    | ok parts =>
      rw [hm] at h
      cases h
      -- a chunk path opens alike with and without the staging file
      have hsame : ∀ c ∈ paths.take n, t.at? c = (t.put q.names (.file [])).at? c :=
        fun c hc => (hst.sameDirs_put []).symm.at?_congr fun p hp => by
          rw [get?_put t hst.names_ne_nil, if_neg (hcs c hc p hp)]
      have hsum := length_le_of_within (List.forall₂_take n hwithin) hsame hm 0
      have htake := foldl_add_take_le (rs.map Range.size) n 0
      rw [← List.map_take] at htake
      omega

end Chunk

/-! ## The transfer paths -/

namespace Transfer

variable {σ : Type}

/-- No count on the transfer paths leaves the resource, so none leaves a 64-bit word, against
servers that hold `R` of at most `2^64 - 1` bytes, over HTTP and over FTP.

* A chunk of a plan of `R`, whatever its file held before: the file, once open, holds at most
  the chunk, so the bytes still wanted are a difference in range; the range asked for starts at
  a word; and the sink's sums stay within `R`.
* A single stream into a file no longer than `R`: the sink's sums, and the bytes on disk after
  the reply, stay within `R`; the shortfall against the total is taken only below the total,
  where it is a difference in range.
* A merge of chunk files that lie within their ranges of the plan: the running count of the
  bytes copied stays within `R`. -/
theorem transfer_counts_stay_in_range (R : List UInt8) (hR : R.length ≤ u64Max)
    (net : Network σ) (hserves : net.Serves R) (hrestarts : net.Restarts R)
    (concurrency minChunk cpus : Nat) :
    (∀ job : ChunkJob, job.range ∈ (Chunk.plan R.length concurrency minChunk cpus).chunks →
      ∀ (t u : FileTree) (held : Nat), openChunkFile t job.path job.size = .ok (u, held) →
        subWord job.size held = .ok (job.size - held) ∧
        (held < job.size → job.range.rangeFrom held =
          .ok (toString (job.range.start + held) ++ "-" ++ toString job.range.last)) ∧
        ∀ s reply (w : World σ), (net.exchange s (job.request held)).2 = .ok reply →
          (job.sink held).SumsWithin R.length none chunkPiece reply w) ∧
    (∀ (job : StreamJob) (t u : FileTree) (offset used : Nat),
      (∀ b, t.at? job.path = some (.file b) → b.length ≤ R.length) →
      openAt t job.path offset = .ok (u, used) →
      ∀ s reply (w : World σ), (net.exchange s (job.request used)).2 = .ok reply →
        (job.sink used).SumsWithin R.length none (max job.bufferSize minBuffer) reply w ∧
        used + ((job.sink used).take none (max job.bufferSize minBuffer) reply w).2.written ≤
          R.length ∧
        (used + ((job.sink used).take none (max job.bufferSize minBuffer) reply w).2.written <
          job.total → subWord job.total used = .ok (job.total - used))) ∧
    (∀ (t staged : FileTree) (paths : List String) (dest : String) (stop : Option Signal),
      t.WellFormed → (∀ c ∈ paths, ¬ t.SameFile c (Chunk.partFor dest)) →
      List.Forall₂ (fun c r => ∀ b, t.at? c = some (.file b) → b.length ≤ r.size) paths
        (Chunk.plan R.length concurrency minChunk cpus).chunks →
      t.writeFile (Chunk.partFor dest) [] = .ok staged →
      ∀ n u written, (paths.take n).foldlM (Chunk.copyChunk (Chunk.partFor dest) stop)
        (staged, 0) = .ok (u, written) → written ≤ R.length) := by
  refine ⟨?chunk, ?stream, ?merge⟩
  case chunk =>
    intro job hjob t u held hopen
    obtain ⟨-, hlast, hsize⟩ := ChunkJob.size_le_of_mem_plan hjob
    have hheld := openChunkFile_held_le hopen
    refine ⟨(subWord_ok_iff _ _ _).2 ⟨hheld, rfl⟩, fun hlt => Chunk.Range.rangeFrom_eq_ok ?_, ?_⟩
    · -- the range starts inside the chunk, which ends inside the resource
      simp only [ChunkJob.size] at hlt
      omega
    · intro s reply w hreply
      exact Sink.sumsWithin_of_le _ (job.sink_body_le R hheld hsize (hserves s _ reply hreply))
        none chunkPiece w
  case stream =>
    intro job t u offset used hfile hopen s reply w hreply
    -- the offset used is at most the file's length, so at most the resource
    have hused : used ≤ R.length := by
      obtain ⟨old, hold, rfl, -⟩ := openAt_cuts hopen
      rcases hold with hf | ⟨-, rfl⟩
      · exact Nat.le_trans (Nat.min_le_right _ _) (hfile old hf)
      · simp
    have hbody := job.sink_body_le R hused (fun _ => hserves s _ reply hreply)
      (fun hftp => hrestarts s _ reply (by simp [StreamJob.request, hftp]) hreply)
    have hdone := Sink.take_written_within (job.sink used) hused hbody none
      (max job.bufferSize minBuffer) w
    exact ⟨Sink.sumsWithin_of_le _ hbody _ _ _, hdone,
      fun hlt => (subWord_ok_iff _ _ _).2 ⟨by omega, rfl⟩⟩
  case merge =>
    intro t staged paths dest stop hwf hsep hwithin hstaged n u written h
    have hcount := Chunk.copied_le_of_within hwf hsep hwithin hstaged stop h
    rwa [Chunk.foldl_size_plan] at hcount

/-- Four bytes planned in two chunks of two: the second chunk's file holds one byte, so its
attempt wants one more and asks from byte three. -/
theorem transfer_counts_stay_in_range_second_chunk :
    [1, 2, 3, 4].length ≤ u64Max ∧ (Network.slices [1, 2, 3, 4]).Serves [1, 2, 3, 4] ∧
      (Network.slices [1, 2, 3, 4]).Restarts [1, 2, 3, 4] ∧
      (⟨1, 2, 3⟩ : Chunk.Range) ∈ (Chunk.plan 4 2 2 1).chunks ∧
      subWord 2 1 = .ok 1 ∧ (⟨1, 2, 3⟩ : Chunk.Range).rangeFrom 1 = .ok "3-3" := by
  have hR : [1, 2, 3, 4].length ≤ u64Max := by decide
  have hmem : (⟨1, 2, 3⟩ : Chunk.Range) ∈ (Chunk.plan 4 2 2 1).chunks := by decide
  obtain ⟨u, hopen⟩ : ∃ u, openChunkFile (FileTree.empty.put ["c"] (.file [9])) "c" 2 =
      .ok (u, 1) := ⟨_, rfl⟩
  obtain ⟨hsub, hrange, -⟩ := (transfer_counts_stay_in_range [1, 2, 3, 4] hR
    (Network.slices [1, 2, 3, 4]) (Network.slices_serves _) (Network.slices_restarts _) 2 2 1).1
    ⟨"http://h/r", ⟨1, 2, 3⟩, "c"⟩ hmem _ _ _ hopen
  exact ⟨hR, Network.slices_serves _, Network.slices_restarts _, hmem, hsub, hrange (by decide)⟩

end Transfer

end DownloadEngine
