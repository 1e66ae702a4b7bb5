/-!
# Lexical file paths

Paths are texts with `/` as separator, read the way the operating system's path type reads
them, without touching any file. A path starting with `/` has a root. A relative path
starting with `.` followed by a separator (or `.` alone) keeps that current-directory mark;
elsewhere empty and `.` pieces are skipped, `..` is a parent piece and anything else a name.

The parent drops the last piece together with the separators and `.` pieces before it; the
root alone and the empty path have none. Joining a path with a rooted path gives the rooted
path; otherwise the two are joined by one separator unless the first is empty or already ends
with one.

## Main statements

* `join_of_absolute`: joining with a rooted path gives that path.
-/

namespace DownloadEngine

/-- One piece of a path. -/
inductive Component where
  | rootDir
  | curDir
  | parentDir
  | normal (name : String)
  deriving DecidableEq, Repr

namespace FsPath

/-- Does the path start at the root? -/
def hasRoot (p : List Char) : Bool := p.head? == some '/'

/-- Does a relative path start with a current-directory mark (`.` alone or `./`)? -/
def startsWithCurDir (p : List Char) : Bool :=
  !hasRoot p && (p == ['.'] || p.take 2 == ['.', '/'])

/-- Characters before the first piece of the body: the root and the current-directory mark. -/
def frontLength (p : List Char) : Nat :=
  (if hasRoot p then 1 else 0) + (if startsWithCurDir p then 1 else 0)

/-- The piece a body segment stands for, if any: empty and `.` segments stand for none. -/
def segmentComponent (seg : List Char) : Option Component :=
  if seg.isEmpty || seg == ['.'] then none
  else if seg == ['.', '.'] then some .parentDir
  else some (.normal (String.ofList seg))

/-- The pieces of a path, front to back. -/
def components (s : String) : List Component :=
  let p := s.toList
  let front := (if hasRoot p then [Component.rootDir] else []) ++
    (if startsWithCurDir p then [Component.curDir] else [])
  front ++ ((p.drop (frontLength p)).splitOn '/').filterMap segmentComponent

/-- The last body segment of `p` (after its last separator within the body) and the number of
characters it takes together with that separator. -/
def lastSegment (p : List Char) (front : Nat) : List Char × Nat :=
  let body := p.drop front
  let seg := (body.reverse.takeWhile (· != '/')).reverse
  (seg, if seg.length < body.length then seg.length + 1 else seg.length)

/-- Drops trailing empty and `.` segments of the body, at most `fuel` of them. -/
def trimBack (front : Nat) : Nat → List Char → List Char
  | 0, p => p
  | fuel + 1, p =>
    if p.length ≤ front then p else
    let (seg, size) := lastSegment p front
    if segmentComponent seg = none then trimBack front fuel (p.take (p.length - size)) else p

/-- Drops body segments from the back until one that is a piece has gone; says whether one
was found, and what is left. -/
def dropLastPiece (front : Nat) : Nat → List Char → Bool × List Char
  | 0, p => (false, p)
  | fuel + 1, p =>
    if p.length ≤ front then (false, p) else
    let (seg, size) := lastSegment p front
    let rest := p.take (p.length - size)
    if segmentComponent seg = none then dropLastPiece front fuel rest else (true, rest)

/-- The parent of a path: none for the root alone and for the empty path. -/
def parent? (s : String) : Option String :=
  let p := s.toList
  let front := frontLength p
  match dropLastPiece front (p.length + 1) p with
  | (true, rest) => some (String.ofList (trimBack front (rest.length + 1) rest))
  | (false, rest) =>
    if hasRoot p then none
    else if startsWithCurDir p then some (String.ofList (rest.take (rest.length - 1)))
    else none

/-- Joins two paths: a rooted second path replaces the first. -/
def join (base p : String) : String :=
  if hasRoot p.toList then p
  else if base.isEmpty then p
  else if base.toList.getLast? == some '/' then base ++ p
  else base ++ "/" ++ p

theorem join_of_absolute (base p : String) (h : hasRoot p.toList = true) : join base p = p := by
  simp [join, h]

end FsPath

end DownloadEngine
