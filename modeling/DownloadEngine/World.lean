import DownloadEngine.FileTree
import DownloadEngine.Network

/-!
# The world a download acts on

A download reads and writes files and talks to servers. The world holds the file tree, the
state of the servers behind the network, and the progress that transfers have reported and
the task has not yet taken: pairs of bytes on disk and total bytes (zero when unknown),
oldest first.
-/

namespace DownloadEngine

/-- Files, servers and pending progress reports. -/
structure World (σ : Type) where
  files : FileTree
  servers : σ
  reports : List (Nat × Nat)

namespace World

/-- Sends a request over a network. -/
def exchange {σ : Type} (net : Network σ) (w : World σ) (r : Request) :
    World σ × Except Nat Reply :=
  let (servers, result) := net.exchange w.servers r
  ({ w with servers }, result)

/-- Reports progress: bytes on disk and the total, zero when unknown. -/
def report {σ : Type} (w : World σ) (downloaded total : Nat) : World σ :=
  { w with reports := w.reports ++ [(downloaded, total)] }

/-- The length of a file, zero when it cannot be read. -/
def lengthOr0 {σ : Type} (w : World σ) (path : String) : Nat :=
  match w.files.length path with
  | .ok n => n
  | .error _ => 0

theorem exchange_files {σ : Type} (net : Network σ) (w : World σ) (r : Request) :
    (w.exchange net r).1.files = w.files := rfl

end World

end DownloadEngine
