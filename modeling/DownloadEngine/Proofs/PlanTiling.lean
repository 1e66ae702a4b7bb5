import DownloadEngine.Chunk.Plan

/-!
# Chunk plans tile the resource

A plan of `total > 0` bytes has between one and `threadCount` chunks. Chunk `i` starts at
`i * size`, where `size` is the plan's chunk size, and every chunk but the last ends one byte
before the next starts; the last ends at `total - 1`. Two facts about the chunk count carry
everything: it is at least one, and either it is one or the chunks of full size fit in `total`
(`chunkCount_cases`). From them every chunk is nonempty, the last one takes the remainder and
is at least as long as the others, and no offset of the plan leaves the 64-bit range.

## Main statements

* `Tiles`: ranges that cover `[0, total)` in order, and `Tiles.sum_size`: their sizes add up to
  `total`.
* `plan_tiles`: the plan's chunks tile the resource, with the sizes, count and worker bounds the
  plan promises, and every offset, length and ranged-request start of the plan fits a word.
-/

namespace DownloadEngine.Chunk

/-- The number of bytes in a range. -/
def Range.size (r : Range) : Nat := r.last + 1 - r.start

/-- Ranges that cover `[0, total)` exactly, in order: the `i`-th is numbered `i`, the first
starts at zero, each starts right after the one before it ends, the last ends at `total - 1`,
and none ends before it starts. -/
structure Tiles (total : Nat) (chunks : List Range) : Prop where
  indexed : ∀ i (h : i < chunks.length), chunks[i].index = i
  first : ∀ c, chunks.head? = some c → c.start = 0
  adjacent : ∀ i (h : i + 1 < chunks.length), chunks[i + 1].start = chunks[i].last + 1
  last : ∀ c, chunks.getLast? = some c → c.last = total - 1
  nonempty : ∀ c ∈ chunks, c.start ≤ c.last

/-! ## Sizes of adjacent ranges -/

/-- Adjacent nonempty ranges hold, together, every byte from the start of the first to the end
of the last. The induction runs along the list with the first range and the running sum free. -/
theorem sum_size_of_adjacent (c : Range) (rest : List Range) (acc : Nat)
    (hadj : ∀ i (h : i + 1 < (c :: rest).length),
      (c :: rest)[i + 1].start = (c :: rest)[i].last + 1)
    (hne : ∀ r ∈ c :: rest, r.start ≤ r.last) :
    ((c :: rest).map Range.size).foldl (· + ·) acc + c.start =
      acc + ((c :: rest).getLast (by simp)).last + 1 := by
  induction rest generalizing c acc with
  | nil =>
    have h := hne c (by simp)
    simp only [List.map_cons, List.map_nil, List.foldl_cons, List.foldl_nil, Range.size,
      List.getLast_singleton]
    omega
  | cons d rest ih =>
    have hd : d.start = c.last + 1 := hadj 0 (by simp)
    have hc := hne c (by simp)
    have hrest := ih d (acc + c.size) (fun i h => hadj (i + 1) (by simp at h ⊢; omega))
      (fun r hr => hne r (List.mem_cons_of_mem c hr))
    rw [List.getLast_cons (by simp)]
    simp only [List.map_cons, List.foldl_cons, Range.size] at hrest ⊢
    omega

/-- Ranges that tile `[0, total)` hold `total` bytes. -/
theorem Tiles.sum_size {total : Nat} {chunks : List Range} (h : Tiles total chunks)
    (hpos : 0 < total) (hne : chunks ≠ []) : (chunks.map Range.size).foldl (· + ·) 0 = total := by
  obtain ⟨c, rest, rfl⟩ := List.exists_cons_of_ne_nil hne
  have hsum := sum_size_of_adjacent c rest 0 h.adjacent h.nonempty
  rw [h.first c rfl, h.last _ (List.getLast?_eq_some_getLast _)] at hsum
  omega

/-! ## The chunk size and the chunk count -/

theorem chunkSize_pos (total concurrency minChunk : Nat) :
    0 < chunkSize total concurrency minChunk := by
  simp only [chunkSize]
  omega

theorem minChunk_le_chunkSize (total concurrency minChunk : Nat) :
    minChunk ≤ chunkSize total concurrency minChunk := by
  simp only [chunkSize]
  omega

/-- The chunk size of a resource that fits a word, under a minimum that fits a word, fits a
word. -/
theorem chunkSize_le_u64Max {total minChunk : Nat} (concurrency : Nat) (ht : total ≤ u64Max)
    (hm : minChunk ≤ u64Max) : chunkSize total concurrency minChunk ≤ u64Max := by
  have hdiv : total / threadCount total concurrency ≤ total := Nat.div_le_self _ _
  simp only [chunkSize, u64Max] at *
  omega

theorem chunkCount_pos (total concurrency minChunk : Nat) :
    0 < chunkCount total concurrency minChunk := by
  have := threadCount_pos total concurrency
  simp only [chunkCount]
  omega

theorem chunkCount_le_threadCount (total concurrency minChunk : Nat) :
    chunkCount total concurrency minChunk ≤ threadCount total concurrency := by
  simp only [chunkCount]
  omega

/-- The count is one, or the chunks of full size fit in the resource. -/
theorem chunkCount_cases (total concurrency minChunk : Nat) :
    chunkCount total concurrency minChunk = 1 ∨
      chunkCount total concurrency minChunk * chunkSize total concurrency minChunk ≤ total := by
  have hT := threadCount_pos total concurrency
  by_cases hfit : 1 ≤ total / chunkSize total concurrency minChunk
  · -- at least one chunk fits: the count is at most the number that fit
    right
    have hle : chunkCount total concurrency minChunk ≤ total / chunkSize total concurrency minChunk := by
      simp only [chunkCount]
      omega
    calc chunkCount total concurrency minChunk * chunkSize total concurrency minChunk
        ≤ total / chunkSize total concurrency minChunk * chunkSize total concurrency minChunk :=
          Nat.mul_le_mul_right _ hle
      _ ≤ total := Nat.div_mul_le_self _ _
  · left
    simp only [chunkCount]
    omega

/-- Every chunk starts inside the resource. -/
theorem mul_chunkSize_lt {total : Nat} (concurrency minChunk : Nat) (hpos : 0 < total) {i : Nat}
    (hi : i < chunkCount total concurrency minChunk) :
    i * chunkSize total concurrency minChunk < total := by
  have hs := chunkSize_pos total concurrency minChunk
  rcases chunkCount_cases total concurrency minChunk with h1 | hfit
  · obtain rfl : i = 0 := by omega
    simpa using hpos
  · calc i * chunkSize total concurrency minChunk
        < (i + 1) * chunkSize total concurrency minChunk := by
          rw [Nat.succ_mul]; omega
      _ ≤ chunkCount total concurrency minChunk * chunkSize total concurrency minChunk :=
          Nat.mul_le_mul_right _ hi
      _ ≤ total := hfit

/-- A chunk before the last ends inside the resource. -/
theorem succ_mul_chunkSize_le {total : Nat} (concurrency minChunk : Nat) {i : Nat}
    (hi : i + 1 < chunkCount total concurrency minChunk) :
    (i + 1) * chunkSize total concurrency minChunk ≤ total := by
  rcases chunkCount_cases total concurrency minChunk with h1 | hfit
  · omega
  · calc (i + 1) * chunkSize total concurrency minChunk
        ≤ chunkCount total concurrency minChunk * chunkSize total concurrency minChunk :=
          Nat.mul_le_mul_right _ (Nat.le_of_lt hi)
      _ ≤ total := hfit

/-! ## The ranges of a plan -/

section Ranges

variable {total size count i : Nat}

@[simp] theorem rangeAt_index : (rangeAt total size count i).index = i := rfl

@[simp] theorem rangeAt_start : (rangeAt total size count i).start = i * size := rfl

theorem rangeAt_last_of_lt (h : i + 1 < count) :
    (rangeAt total size count i).last = i * size + size - 1 := by
  simp [rangeAt, Nat.ne_of_lt h]

theorem rangeAt_last_of_eq (h : i + 1 = count) : (rangeAt total size count i).last = total - 1 := by
  simp [rangeAt, h]

/-- A chunk before the last is of full size. -/
theorem size_rangeAt_of_lt (hs : 0 < size) (h : i + 1 < count) :
    (rangeAt total size count i).size = size := by
  simp only [Range.size, rangeAt_start, rangeAt_last_of_lt h]
  omega

/-- The last chunk takes what is left. -/
theorem size_rangeAt_of_eq (hpos : 0 < total) (h : i + 1 = count) :
    (rangeAt total size count i).size = total - i * size := by
  simp only [Range.size, rangeAt_start, rangeAt_last_of_eq h]
  omega

end Ranges

section Plan

variable {total : Nat} (concurrency minChunk cpus : Nat)

theorem plan_chunks_of_pos (hpos : 0 < total) :
    (plan total concurrency minChunk cpus).chunks =
      (List.range (chunkCount total concurrency minChunk)).map
        (rangeAt total (chunkSize total concurrency minChunk) (chunkCount total concurrency minChunk)) := by
  simp [plan, Nat.ne_of_gt hpos]

theorem plan_workers_of_pos (hpos : 0 < total) :
    (plan total concurrency minChunk cpus).workers =
      min (min (threadCount total concurrency) (satMul (max cpus 1) 2))
        (chunkCount total concurrency minChunk) := by
  simp [plan, Nat.ne_of_gt hpos]

theorem length_plan_chunks (hpos : 0 < total) :
    (plan total concurrency minChunk cpus).chunks.length = chunkCount total concurrency minChunk := by
  simp [plan_chunks_of_pos concurrency minChunk cpus hpos]

theorem getElem_plan_chunks (hpos : 0 < total) {i : Nat}
    (hi : i < (plan total concurrency minChunk cpus).chunks.length) :
    (plan total concurrency minChunk cpus).chunks[i] =
      rangeAt total (chunkSize total concurrency minChunk) (chunkCount total concurrency minChunk) i := by
  simp [plan_chunks_of_pos concurrency minChunk cpus hpos]

theorem mem_plan_chunks (hpos : 0 < total) {c : Range} :
    c ∈ (plan total concurrency minChunk cpus).chunks ↔
      ∃ i < chunkCount total concurrency minChunk,
        rangeAt total (chunkSize total concurrency minChunk) (chunkCount total concurrency minChunk) i = c := by
  simp [plan_chunks_of_pos concurrency minChunk cpus hpos]

/-- Every chunk of a plan ends inside the resource, after it starts. -/
theorem start_le_last_le (hpos : 0 < total) {c : Range}
    (hc : c ∈ (plan total concurrency minChunk cpus).chunks) : c.start ≤ c.last ∧ c.last < total := by
  obtain ⟨i, hi, rfl⟩ := (mem_plan_chunks concurrency minChunk cpus hpos).1 hc
  have hs := chunkSize_pos total concurrency minChunk
  have hstart := mul_chunkSize_lt concurrency minChunk hpos hi
  rcases Nat.lt_or_ge (i + 1) (chunkCount total concurrency minChunk) with hlt | hge
  · have hend := succ_mul_chunkSize_le concurrency minChunk hlt
    rw [rangeAt_start, rangeAt_last_of_lt hlt]
    rw [Nat.succ_mul] at hend
    omega
  · rw [rangeAt_start, rangeAt_last_of_eq (by omega)]
    omega

/-- The chunks of a plan of a nonempty resource tile it. -/
theorem tiles_plan (hpos : 0 < total) :
    Tiles total (plan total concurrency minChunk cpus).chunks where
  indexed i hi := by rw [getElem_plan_chunks concurrency minChunk cpus hpos hi]; rfl
  first c hc := by
    have hn := chunkCount_pos total concurrency minChunk
    rw [plan_chunks_of_pos concurrency minChunk cpus hpos, List.head?_map,
      List.head?_range, if_neg (by omega)] at hc
    cases hc
    simp
  adjacent i hi := by
    have hlt : i + 1 < chunkCount total concurrency minChunk := by
      rwa [length_plan_chunks concurrency minChunk cpus hpos] at hi
    have hs := chunkSize_pos total concurrency minChunk
    rw [getElem_plan_chunks concurrency minChunk cpus hpos,
      getElem_plan_chunks concurrency minChunk cpus hpos, rangeAt_start, rangeAt_last_of_lt hlt,
      Nat.succ_mul]
    omega
  last c hc := by
    have hn := chunkCount_pos total concurrency minChunk
    rw [plan_chunks_of_pos concurrency minChunk cpus hpos, List.getLast?_map,
      List.getLast?_range, if_neg (by omega)] at hc
    cases hc
    exact rangeAt_last_of_eq (by omega)
  nonempty c hc := (start_le_last_le concurrency minChunk cpus hpos hc).1

end Plan

/-- The last chunk of a plan with more than one chunk is at least of full size. -/
theorem chunkSize_le_size_last {total : Nat} {concurrency minChunk i : Nat} (hpos : 0 < total)
    (hi : i + 1 = chunkCount total concurrency minChunk) (hn : chunkCount total concurrency minChunk ≠ 1) :
    chunkSize total concurrency minChunk ≤
      (rangeAt total (chunkSize total concurrency minChunk) (chunkCount total concurrency minChunk) i).size := by
  have hfit := (chunkCount_cases total concurrency minChunk).resolve_left hn
  rw [size_rangeAt_of_eq hpos hi, ← hi, Nat.succ_mul] at *
  omega

/-! ## Words -/

/-- A nonempty range that ends below the largest word has its length. -/
theorem Range.length_eq_ok {r : Range} (h : r.start ≤ r.last) (hw : r.last < u64Max) :
    r.length = .ok r.size := by
  have hsub : subWord r.last r.start = .ok (r.last - r.start) := (subWord_ok_iff _ _ _).2 ⟨h, rfl⟩
  have hadd : addWord (r.last - r.start) 1 = .ok r.size :=
    (addWord_ok_iff _ _ _).2 ⟨by omega, by simp only [Range.size]; omega⟩
  rw [Range.length, hsub]
  exact hadd

/-- A ranged request that starts at a word gives its text. -/
theorem Range.rangeFrom_eq_ok {r : Range} {skip : Nat} (h : r.start + skip ≤ u64Max) :
    r.rangeFrom skip = .ok (toString (r.start + skip) ++ "-" ++ toString r.last) := by
  rw [Range.rangeFrom, (addWord_ok_iff _ _ _).2 ⟨h, rfl⟩]
  rfl

section Bounds

variable {total : Nat} (concurrency minChunk cpus : Nat)

/-- Every chunk before the last has the plan's chunk size. -/
theorem size_plan_of_lt (hpos : 0 < total) {i : Nat}
    (hi : i + 1 < (plan total concurrency minChunk cpus).chunks.length) :
    (plan total concurrency minChunk cpus).chunks[i].size = chunkSize total concurrency minChunk := by
  rw [length_plan_chunks concurrency minChunk cpus hpos] at hi
  rw [getElem_plan_chunks concurrency minChunk cpus hpos]
  exact size_rangeAt_of_lt (chunkSize_pos total concurrency minChunk) hi

/-- With more than one chunk, the last is at least of full size. -/
theorem chunkSize_le_size_getLast (hpos : 0 < total)
    (hn : 1 < (plan total concurrency minChunk cpus).chunks.length) {c : Range}
    (hc : (plan total concurrency minChunk cpus).chunks.getLast? = some c) :
    chunkSize total concurrency minChunk ≤ c.size := by
  rw [length_plan_chunks concurrency minChunk cpus hpos] at hn
  rw [plan_chunks_of_pos concurrency minChunk cpus hpos, List.getLast?_map,
    List.getLast?_range, if_neg (by omega)] at hc
  cases hc
  exact chunkSize_le_size_last hpos (by omega) (by omega)

/-- No chunk is smaller than the minimum, or than the whole resource when that is smaller. -/
theorem min_le_size_plan (hpos : 0 < total) {c : Range}
    (hc : c ∈ (plan total concurrency minChunk cpus).chunks) : min minChunk total ≤ c.size := by
  obtain ⟨i, hi, rfl⟩ := (mem_plan_chunks concurrency minChunk cpus hpos).1 hc
  have hmin := minChunk_le_chunkSize total concurrency minChunk
  rcases Nat.lt_or_ge (i + 1) (chunkCount total concurrency minChunk) with hlt | hge
  · rw [size_rangeAt_of_lt (chunkSize_pos total concurrency minChunk) hlt]
    omega
  · -- the last chunk: the whole resource when it is alone, else at least of full size
    by_cases hn : chunkCount total concurrency minChunk = 1
    · obtain rfl : i = 0 := by omega
      rw [size_rangeAt_of_eq hpos (by omega)]
      omega
    · have := chunkSize_le_size_last hpos (by omega) hn (i := i)
      omega

/-- The worker pool is at least one thread and within every cap. -/
theorem workers_plan_bounds (hpos : 0 < total) :
    1 ≤ (plan total concurrency minChunk cpus).workers ∧
      (plan total concurrency minChunk cpus).workers ≤ (plan total concurrency minChunk cpus).chunks.length ∧
      (plan total concurrency minChunk cpus).workers ≤ 2 * max cpus 1 ∧
      (plan total concurrency minChunk cpus).workers ≤ threadCount total concurrency := by
  have hT := threadCount_pos total concurrency
  have hn := chunkCount_pos total concurrency minChunk
  rw [plan_workers_of_pos concurrency minChunk cpus hpos, length_plan_chunks concurrency minChunk cpus hpos]
  simp only [satMul, u64Max]
  omega

/-- Every start and every end of a chunk the plan computes fits a word, and so does every
chunk number after it. -/
theorem offsets_plan_le (hpos : 0 < total) (htotal : total ≤ u64Max) (hmin : minChunk ≤ u64Max)
    {i : Nat} (hi : i < (plan total concurrency minChunk cpus).chunks.length) :
    i * chunkSize total concurrency minChunk + chunkSize total concurrency minChunk ≤ u64Max ∧
      i + 1 ≤ u64Max := by
  rw [length_plan_chunks concurrency minChunk cpus hpos] at hi
  have hs := chunkSize_pos total concurrency minChunk
  rcases chunkCount_cases total concurrency minChunk with h1 | hfit
  · -- a single chunk: its end is the chunk size, which fits
    obtain rfl : i = 0 := by omega
    have := chunkSize_le_u64Max concurrency htotal hmin
    simp only [u64Max] at *
    omega
  · have hend : (i + 1) * chunkSize total concurrency minChunk ≤ total :=
      Nat.le_trans (Nat.mul_le_mul_right _ hi) hfit
    have hcount : i + 1 ≤ (i + 1) * chunkSize total concurrency minChunk :=
      Nat.le_mul_of_pos_right _ hs
    rw [Nat.succ_mul] at hend hcount
    omega

/-- Every chunk of the plan has its length, and every ranged request inside it its text. -/
theorem length_plan_eq_ok (hpos : 0 < total) (htotal : total ≤ u64Max) {c : Range}
    (hc : c ∈ (plan total concurrency minChunk cpus).chunks) :
    c.length = .ok c.size ∧
      ∀ k < c.size, c.rangeFrom k = .ok (toString (c.start + k) ++ "-" ++ toString c.last) := by
  obtain ⟨hstart, hlast⟩ := start_le_last_le concurrency minChunk cpus hpos hc
  refine ⟨Range.length_eq_ok hstart (by omega), fun k hk => Range.rangeFrom_eq_ok ?_⟩
  simp only [Range.size] at hk
  omega

end Bounds

/-- A plan splits a resource of `total` bytes exactly, for every concurrency hint, minimum chunk
size and processor count. An empty resource has no chunks and no workers. Otherwise the chunks
tile `[0, total)` in order, so their sizes add up to `total`; there are between one and
`threadCount` of them; every chunk but the last has the chunk size, the last is at least that
long when it is not alone, and none is smaller than the minimum or the whole resource; the
worker pool is at least one thread and at most the chunks, twice the processors and the thread
count. For a resource and a minimum that fit a word, every chunk's end, number, length and
ranged-request start fits a word as well. -/
theorem plan_tiles (total concurrency minChunk cpus : Nat) (htotal : total ≤ u64Max)
    (hmin : minChunk ≤ u64Max) :
    let p := plan total concurrency minChunk cpus
    let size := chunkSize total concurrency minChunk
    (total = 0 → p.chunks = [] ∧ p.workers = 0) ∧
    (0 < total →
      Tiles total p.chunks ∧ (p.chunks.map Range.size).foldl (· + ·) 0 = total ∧
      1 ≤ p.chunks.length ∧ p.chunks.length ≤ threadCount total concurrency ∧
      (∀ i (h : i + 1 < p.chunks.length), p.chunks[i].size = size) ∧
      (1 < p.chunks.length → ∀ c, p.chunks.getLast? = some c → size ≤ c.size) ∧
      (∀ c ∈ p.chunks, min minChunk total ≤ c.size) ∧
      (1 ≤ p.workers ∧ p.workers ≤ p.chunks.length ∧ p.workers ≤ 2 * max cpus 1 ∧
        p.workers ≤ threadCount total concurrency) ∧
      (∀ i < p.chunks.length, i * size + size ≤ u64Max ∧ i + 1 ≤ u64Max) ∧
      (∀ c ∈ p.chunks, c.length = .ok c.size ∧
        ∀ k < c.size, c.rangeFrom k = .ok (toString (c.start + k) ++ "-" ++ toString c.last))) := by
  dsimp only
  refine ⟨fun h => by simp [h], fun hpos => ?_⟩
  have hlen := length_plan_chunks concurrency minChunk cpus hpos
  have hcount := chunkCount_pos total concurrency minChunk
  have htiles := tiles_plan concurrency minChunk cpus hpos
  refine ⟨htiles, htiles.sum_size hpos (List.ne_nil_of_length_pos (by omega)), by omega,
    hlen ▸ chunkCount_le_threadCount total concurrency minChunk,
    fun i h => size_plan_of_lt concurrency minChunk cpus hpos h,
    fun hn c hc => chunkSize_le_size_getLast concurrency minChunk cpus hpos hn hc,
    fun c hc => min_le_size_plan concurrency minChunk cpus hpos hc,
    workers_plan_bounds concurrency minChunk cpus hpos,
    fun i hi => offsets_plan_le concurrency minChunk cpus hpos htotal hmin hi,
    fun c hc => length_plan_eq_ok concurrency minChunk cpus hpos htotal hc⟩

/-- Ten mebibytes in eight chunks of one mebibyte and a quarter, fetched by eight workers. -/
theorem plan_tiles_ten_mebibytes :
    10485760 ≤ u64Max ∧ minChunkBytes ≤ u64Max ∧
      (plan 10485760 8 minChunkBytes 4).chunks.length = 8 ∧
      Tiles 10485760 (plan 10485760 8 minChunkBytes 4).chunks :=
  ⟨by decide, by decide, by decide,
    ((plan_tiles 10485760 8 minChunkBytes 4 (by decide) (by decide)).2 (by decide)).1⟩

end DownloadEngine.Chunk
