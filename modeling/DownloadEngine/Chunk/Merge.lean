import DownloadEngine.FileTree
import DownloadEngine.Chunk.Layout
import DownloadEngine.Control

/-!
# Merging chunk files

A merge copies the chunk files, in order, into the destination's `.part` file and renames it
into place only when every chunk was copied and the length is the one expected. The chunk
files are removed afterwards. On any failure the `.part` file is removed, the chunk files
stay for another attempt and the destination is untouched. A stop signal ends the merge
before the next chunk and before the rename, as an interruption. The token is read at each
check, and another thread may raise a signal on it at any time: `stop i` is the signal it
carries when chunk `i` is about to be opened, and `stop n`, for `n` chunks, the one it carries
before the rename.

A chunk that cannot be opened is reported with its path in front of the error.
-/

namespace DownloadEngine.Chunk

/-- The error of a merge ended by a stop signal. -/
def interrupted : IoError := ⟨.interrupted, "merge interrupted"⟩

/-- The error of a merge that copied another number of bytes than expected. -/
def lengthMismatch (written expected : Nat) : IoError :=
  ⟨.invalidData, "merged " ++ toString written ++ " bytes, expected " ++ toString expected⟩

/-- Copies one chunk to the end of the `.part` file. -/
def copyChunk (part : String) (stop : Option Signal) (acc : FileTree × Nat) (chunk : String) :
    Except IoError (FileTree × Nat) := do
  let (t, written) := acc
  if stop.isSome then throw interrupted
  let entry ← (t.openRead chunk).mapError (IoError.atPath chunk)
  let bytes ← match entry with
    | .file bytes => pure bytes
    | .dir => throw IoError.isADirectory
  pure (← t.appendFile part bytes, written + bytes.length)

/-- Copies the chunks to the end of the `.part` file, the first at check `i`: the token is read
before each chunk is opened. -/
def copyFrom (part : String) (stop : Nat → Option Signal) :
    Nat → List String → FileTree × Nat → Except IoError (FileTree × Nat)
  | _, [], acc => pure acc
  | i, c :: cs, acc => do copyFrom part stop (i + 1) cs (← copyChunk part (stop i) acc c)

/-- Writes the chunks into a fresh `.part` file and checks the length. -/
def concat (t : FileTree) (chunks : List String) (part : String) (expected : Option Nat)
    (stop : Nat → Option Signal) : Except IoError (FileTree × Nat) := do
  let t ← t.writeFile part []
  let (t, written) ← copyFrom part stop 0 chunks (t, 0)
  match expected with
  | some n => if written ≠ n then throw (lengthMismatch written n)
  | none => pure ()
  pure (t, written)

/-- Removes a file if it is there. -/
def discard (t : FileTree) (path : String) : FileTree :=
  match t.removeFile path with
  | .ok t => t
  | .error _ => t

/-- Merges the chunk files into `dest`; gives the tree afterwards and the bytes written. -/
def merge (t : FileTree) (chunks : List String) (dest : String) (expected : Option Nat)
    (stop : Nat → Option Signal) : FileTree × Except IoError Nat :=
  let part := partFor dest
  match concat t chunks part expected stop with
  | .error e => (discard t part, .error e)
  | .ok (t', written) =>
    if (stop chunks.length).isSome then (discard t' part, .error interrupted)
    else match t'.rename part dest with
      | .error e => (discard t' part, .error e)
      | .ok t'' => (chunks.foldl discard t'', .ok written)

end DownloadEngine.Chunk
