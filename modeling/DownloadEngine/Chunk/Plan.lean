import DownloadEngine.Word

/-!
# Chunk plans

A resource of `total` bytes is split into contiguous inclusive byte ranges that parallel
ranged requests fetch. The thread count is the concurrency hint (at least one), doubled up
to 16 above 100 MiB and quadrupled up to 32 above 1 GiB. Every chunk but the last has the
same size, the larger of `total / threads`, the minimum chunk size and one; there are as many
chunks as fit at that size, between one and the thread count, and the last chunk takes the
remainder. The worker pool is the thread count, capped at twice the CPUs and at the number of
chunks.
-/

namespace DownloadEngine.Chunk

/-- The default smallest chunk, 1 MiB. -/
def minChunkBytes : Nat := 1024 * 1024

/-- Above this size (100 MiB) the thread count doubles. -/
def largeThreshold : Nat := 100 * 1024 * 1024

/-- Above this size (1 GiB) the thread count quadruples. -/
def hugeThreshold : Nat := 1024 * 1024 * 1024

/-- One inclusive byte range `start..=last` of the resource, the `index`-th of its plan. -/
structure Range where
  index : Nat
  start : Nat
  last : Nat
  deriving DecidableEq, Repr

namespace Range

/-- Number of bytes in the range; a range that ends before it starts, or spans every
64-bit offset, is a fault. -/
def length (r : Range) : Except Fault Nat := do
  let span ← subWord r.last r.start
  addWord span 1

/-- The `from-last` text of a ranged request that starts `skip` bytes into the range. -/
def rangeFrom (r : Range) (skip : Nat) : Except Fault String := do
  let first ← addWord r.start skip
  pure (toString first ++ "-" ++ toString r.last)

end Range

/-- Chunks and the number of threads that fetch them. -/
structure Plan where
  chunks : List Range
  workers : Nat
  deriving DecidableEq, Repr

/-- Threads for a resource of `total` bytes under a concurrency hint. -/
def threadCount (total concurrency : Nat) : Nat :=
  let base := max concurrency 1
  if total > hugeThreshold then min (satMul base 4) 32
  else if total > largeThreshold then min (satMul base 2) 16
  else base

/-- Size of every chunk but the last. -/
def chunkSize (total concurrency minChunk : Nat) : Nat :=
  max (max (total / threadCount total concurrency) minChunk) 1

/-- Number of chunks: as many as fit at the chunk size, between one and the thread count. -/
def chunkCount (total concurrency minChunk : Nat) : Nat :=
  min (max (total / chunkSize total concurrency minChunk) 1) (threadCount total concurrency)

/-- The `index`-th of `count` chunks of size `size` over `total` bytes. -/
def rangeAt (total size count index : Nat) : Range :=
  { index := index
    start := index * size
    last := if index + 1 = count then total - 1 else index * size + size - 1 }

/-- The plan for `total` bytes: no chunks and no workers for an empty resource. -/
def plan (total concurrency minChunk cpus : Nat) : Plan :=
  if total = 0 then ⟨[], 0⟩ else
  let threads := threadCount total concurrency
  let size := chunkSize total concurrency minChunk
  let count := chunkCount total concurrency minChunk
  let chunks := (List.range count).map (rangeAt total size count)
  ⟨chunks, min (min threads (satMul (max cpus 1) 2)) chunks.length⟩

@[simp] theorem plan_zero (concurrency minChunk cpus : Nat) :
    plan 0 concurrency minChunk cpus = ⟨[], 0⟩ := by
  simp [plan]

theorem threadCount_pos (total concurrency : Nat) : 0 < threadCount total concurrency := by
  simp only [threadCount, satMul, u64Max]
  split
  · omega
  · split <;> omega

end DownloadEngine.Chunk
