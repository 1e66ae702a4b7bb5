import DownloadEngine.IoError
import DownloadEngine.FsPath
import DownloadEngine.Text.Utf8

/-!
# File trees

A file tree maps paths to files (their bytes) and directories; the root directory is always
there and every entry's parent is a directory. A path is walked the way the operating system
walks it: its pieces are the texts between slashes, empty ones left out; every piece but the
last must lead to a directory, with `.` staying where it is and `..` going up; the last piece
is a name, or `.` or `..` naming a directory. A slash after the last piece asks for a
directory.

The operations fail as the operating system does. On the way to the last piece, a missing
directory is `NotFound` and a file is `NotADirectory`. Reading a directory, or writing,
truncating or removing one as a file, is `IsADirectory`, and so is creating a file at a path
that ends in `.`, `..` or a slash; a slash after a file's name is `NotADirectory`; making a
directory where something stands is `AlreadyExists`; renaming from or onto a path that ends
in `.` or `..` is `ResourceBusy`; renaming a directory onto a non-empty one, or onto one of
the directories it lies in, is `DirectoryNotEmpty`. An append may also meet a device that gives
out part way through it; the bytes the device took stay in the file.
-/

namespace DownloadEngine

/-- What stands at a path. -/
inductive Entry
  | file (bytes : List UInt8)
  | dir
  deriving DecidableEq, Repr

/-- A file tree: its entries by the names on their way from the root, the root apart. -/
structure FileTree where
  entries : List (List String × Entry)
  deriving Repr

namespace FileTree

/-- The text of a list of names, below the root. -/
def pathText (ns : List String) : String := "/".intercalate ns

/-- The empty tree: only the root. -/
def empty : FileTree := ⟨[]⟩

/-- What stands at a path given by its names. -/
def get? (t : FileTree) (ns : List String) : Option Entry :=
  if ns = [] then some .dir else (t.entries.find? (·.1 == ns)).map (·.2)

/-- Sets what stands at a path given by its names. -/
def put (t : FileTree) (ns : List String) (e : Entry) : FileTree :=
  if t.entries.any (·.1 == ns) then
    ⟨t.entries.map fun (p, old) => if p == ns then (p, e) else (p, old)⟩
  else ⟨t.entries ++ [(ns, e)]⟩

/-- Removes what stands at a path and below it. -/
def erase (t : FileTree) (ns : List String) : FileTree :=
  ⟨t.entries.filter fun (p, _) => !(ns.isPrefixOf p)⟩

/-! ## Walking a path -/

/-- How a path ends, once the pieces before its last one are walked. -/
inductive Tail
  /-- The path names the directory reached: it has no pieces, or it ends in `.`. -/
  | here
  /-- The path ends in `..`: it names the directory above the one reached. -/
  | up
  /-- The path ends in a name. -/
  | name (n : String)
  deriving DecidableEq, Repr

/-- A path walked up to its last piece: the directory reached, by its names, how the path
ends, and whether a slash follows the last piece. -/
structure Place where
  dir : List String
  tail : Tail
  slash : Bool
  deriving DecidableEq, Repr

/-- The names of what a walked path stands for. -/
def Place.names (p : Place) : List String :=
  match p.tail with
  | .here => p.dir
  | .up => p.dir.dropLast
  | .name n => p.dir ++ [n]

/-- The pieces of a path: the texts between slashes, empty ones left out. -/
def pieces (path : String) : List String :=
  ((path.toList.splitOn '/').map String.ofList).filter (· ≠ "")

/-- Walks one piece from a directory: `.` stays, `..` goes up (the root is its own parent),
and a name must be a directory. -/
def step (t : FileTree) (dir : List String) (piece : String) : Except IoError (List String) :=
  if piece = "." then .ok dir
  else if piece = ".." then .ok dir.dropLast
  else match t.get? (dir ++ [piece]) with
    | some .dir => .ok (dir ++ [piece])
    | some (.file _) => .error IoError.notADirectory
    | none => .error IoError.notFound

/-- Walks a path up to its last piece. Every path is read from the root. -/
def locate (t : FileTree) (path : String) : Except IoError Place :=
  match (pieces path).reverse with
  | [] => .ok ⟨[], .here, false⟩
  | last :: before => do
    let dir ← before.reverse.foldlM t.step []
    let tail := if last = "." then Tail.here else if last = ".." then .up else .name last
    pure ⟨dir, tail, path.toList.getLast? == some '/'⟩

/-! ## Files -/

/-- Opens a path for reading: it must exist, and a slash may follow only a directory. -/
def openRead (t : FileTree) (path : String) : Except IoError Entry := do
  let p ← t.locate path
  match t.get? p.names with
  | none => throw IoError.notFound
  | some (.file bytes) => if p.slash then throw IoError.notADirectory else pure (.file bytes)
  | some .dir => pure .dir

/-- What stands at a path, if it can be opened. -/
def at? (t : FileTree) (path : String) : Option Entry := (t.openRead path).toOption

/-- Whether a directory stands at a path. -/
def isDir (t : FileTree) (path : String) : Bool := t.at? path == some .dir

/-- The bytes of a file; a directory cannot be read. -/
def fileBytes (t : FileTree) (path : String) : Except IoError (List UInt8) := do
  match ← t.openRead path with
  | .file bytes => pure bytes
  | .dir => throw IoError.isADirectory

/-- Where a file may be created or opened for writing: a path ending in a name with no
directory there. Gives its names and the bytes of the file there, if any. -/
def writable (t : FileTree) (path : String) :
    Except IoError (List String × Option (List UInt8)) := do
  let p ← t.locate path
  match p.tail with
  | .name _ =>
    match t.get? p.names with
    | some .dir => throw IoError.isADirectory
    | some (.file bytes) =>
      if p.slash then throw IoError.notADirectory else pure (p.names, some bytes)
    | none => if p.slash then throw IoError.isADirectory else pure (p.names, none)
  | _ => throw IoError.isADirectory

/-- A file that exists, opened for writing: its names and bytes. -/
def existingFile (t : FileTree) (path : String) : Except IoError (List String × List UInt8) := do
  let p ← t.locate path
  match t.get? p.names with
  | none => throw IoError.notFound
  | some .dir => throw IoError.isADirectory
  | some (.file bytes) => if p.slash then throw IoError.notADirectory else pure (p.names, bytes)

/-- Writes a file, creating or truncating it. -/
def writeFile (t : FileTree) (path : String) (bytes : List UInt8) : Except IoError FileTree := do
  let (ns, _) ← t.writable path
  pure (t.put ns (.file bytes))

/-- Appends bytes to a file that exists. -/
def appendFile (t : FileTree) (path : String) (bytes : List UInt8) : Except IoError FileTree := do
  let (ns, old) ← t.existingFile path
  pure (t.put ns (.file (old ++ bytes)))

/-- The bytes of a write that a device takes: the first `n` when it gives out after them
(`cut = some (n, e)`), else all of them. -/
def kept (bytes : List UInt8) : Option (Nat × IoError) → List UInt8
  | some (n, _) => bytes.take n
  | none => bytes

/-- The error a device gives out with part way through a write: only when it takes fewer
bytes than it was given. -/
def cutError (bytes : List UInt8) : Option (Nat × IoError) → Option IoError
  | some (n, e) => if n < bytes.length then some e else none
  | none => none

/-- Appends bytes to a file that exists the way a loop of writes does, on a device that may
give out part way: the bytes it takes stay in the file, and the write then fails. Gives the
tree and the error, if any. -/
def appendCut (t : FileTree) (path : String) (bytes : List UInt8) (cut : Option (Nat × IoError)) :
    FileTree × Option IoError :=
  match t.appendFile path (kept bytes cut) with
  | .error e => (t, some e)
  | .ok u => (u, cutError bytes cut)

/-- Keeps the first `n` bytes of a file. -/
def truncateFile (t : FileTree) (path : String) (n : Nat) : Except IoError FileTree := do
  let (ns, old) ← t.existingFile path
  pure (t.put ns (.file (old.take n)))

/-- Removes a file. -/
def removeFile (t : FileTree) (path : String) : Except IoError FileTree := do
  let p ← t.locate path
  match p.tail with
  | .name _ =>
    match t.get? p.names with
    | none => throw IoError.notFound
    | some .dir => throw IoError.isADirectory
    | some (.file _) => if p.slash then throw IoError.notADirectory else pure (t.erase p.names)
  | _ => throw IoError.isADirectory

/-- The length a directory reports in its metadata. -/
def directoryLength : Nat := 4096

/-- The length of what stands at a path, as its metadata gives it. -/
def length (t : FileTree) (path : String) : Except IoError Nat := do
  match ← t.openRead path with
  | .file bytes => pure bytes.length
  | .dir => pure directoryLength

/-- Opens a file for appending, creating it empty when missing; gives its length. -/
def openAppend (t : FileTree) (path : String) : Except IoError (FileTree × Nat) := do
  match ← t.writable path with
  | (_, some bytes) => pure (t, bytes.length)
  | (ns, none) => pure (t.put ns (.file []), 0)

/-! ## Directories -/

/-- Makes one directory; the directories on the way must be there and the path free. -/
def mkdir (t : FileTree) (path : String) : Except IoError FileTree := do
  let p ← t.locate path
  match p.tail with
  | .name _ =>
    match t.get? p.names with
    | some _ => throw IoError.alreadyExists
    | none => pure (t.put p.names .dir)
  | _ => throw IoError.alreadyExists

/-- The error of a recursive creation that reached a path without parent. -/
def wholeTreeFailed : IoError := ⟨.uncategorized, "failed to create whole tree"⟩

/-- Makes a directory and the missing ones above it, going up at most `fuel` times. A path
whose directories on the way are missing has its parent made first and is then tried again;
an error at a path where a directory stands after all is no error. -/
def createDirAllWith (t : FileTree) : Nat → String → Except IoError FileTree
  | 0, _ => .error wholeTreeFailed
  | fuel + 1, path =>
    if path = "" then .ok t
    else match t.mkdir path with
      | .ok t => .ok t
      | .error e =>
        if e.kind = .notFound then
          match FsPath.parent? path with
          | none => .error wholeTreeFailed
          | some up => do
            let t ← t.createDirAllWith fuel up
            match t.mkdir path with
            | .ok t => .ok t
            | .error e => if t.isDir path then .ok t else .error e
        else if t.isDir path then .ok t else .error e

/-- Makes a directory and the missing ones above it. Each step up takes the parent, which is
shorter, so the length of the path bounds the steps. -/
def createDirAll (t : FileTree) (path : String) : Except IoError FileTree :=
  t.createDirAllWith (path.length + 1) path

/-- Removes a directory and all below it; a missing one is fine. -/
def removeDirAll (t : FileTree) (path : String) : FileTree :=
  match t.locate path with
  | .ok p => if t.get? p.names == some .dir then t.erase p.names else t
  | .error _ => t

/-- Whether a directory holds entries. -/
def hasChildren (t : FileTree) (ns : List String) : Bool :=
  t.entries.any fun (p, _) => ns.isPrefixOf p && p != ns

/-- Moves a file or directory to a new path, replacing a file or an empty directory there.
Both paths are walked first; a path that ends in `.` or `..` is busy; a slash after either
name needs the source to be a directory; a directory cannot move below itself, nor onto a
directory it lies in. -/
def rename (t : FileTree) (src dst : String) : Except IoError FileTree := do
  let origin ← t.locate src
  let goal ← t.locate dst
  let .name _ := origin.tail | throw IoError.resourceBusy
  let .name _ := goal.tail | throw IoError.resourceBusy
  let source := origin.names
  let dest := goal.names
  let some moved := t.get? source | throw IoError.notFound
  if moved != .dir ∧ (origin.slash ∨ goal.slash) then throw IoError.notADirectory
  if source = dest then return t
  if source.isPrefixOf dest then throw IoError.invalidArgument
  if dest.isPrefixOf source then throw IoError.directoryNotEmpty
  match moved, t.get? dest with
  | .file _, some .dir => throw IoError.isADirectory
  | .dir, some (.file _) => throw IoError.notADirectory
  | .dir, some .dir => if t.hasChildren dest then throw IoError.directoryNotEmpty
  | _, _ => pure ()
  let kept := (t.erase dest).entries.filter fun (p, _) => !(source.isPrefixOf p)
  let carried := t.entries.filterMap fun (p, e) =>
    if source.isPrefixOf p then some (dest ++ p.drop source.length, e) else none
  pure ⟨kept ++ carried⟩

/-- The entries below a directory, by their names below it, sorted by path text. -/
def below (t : FileTree) (path : String) : List (List String × Entry) :=
  match t.locate path with
  | .error _ => []
  | .ok p =>
    let ns := p.names
    let items := t.entries.filterMap fun (q, e) =>
      if ns.isPrefixOf q && q != ns then some (q.drop ns.length, e) else none
    items.mergeSort fun a b => decide (pathText a.1 ≤ pathText b.1)

end FileTree

end DownloadEngine
