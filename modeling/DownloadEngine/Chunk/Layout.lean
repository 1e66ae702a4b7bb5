import DownloadEngine.FsPath

/-!
# Chunk file layout

A task's chunk files live in a private directory beside the destination, `.tmp_<task id>`
under the destination's parent (the current directory when it has none); chunk `i` is the
file `chunk_<i>` in it. A merge writes to the destination's name with `.part` appended before
renaming it into place.
-/

namespace DownloadEngine.Chunk

/-- The private chunk directory of a task, beside its destination. -/
def dirFor (dest taskId : String) : String :=
  FsPath.join ((FsPath.parent? dest).getD ".") (".tmp_" ++ taskId)

/-- The file of chunk `index` in a chunk directory. -/
def fileAt (dir : String) (index : Nat) : String :=
  FsPath.join dir ("chunk_" ++ toString index)

/-- The temporary file a merge writes before renaming it to the destination. -/
def partFor (dest : String) : String := dest ++ ".part"

end DownloadEngine.Chunk
