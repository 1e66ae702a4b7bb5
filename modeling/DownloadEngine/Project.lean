import DownloadEngine.FsPath

/-!
# Project paths

Every download lands inside one project's directory under the projects root. A project id
must be exactly one name piece. A project-relative path is read without its leading slashes:
its names are appended in order, `.` pieces are skipped, and a `..` piece is refused as
traversal, so the result never leaves the project directory.
-/

namespace DownloadEngine

/-- Why a project path was refused. -/
inductive PathError where
  | invalidProject (id : String)
  | traversal (path : String)
  deriving DecidableEq, Repr

/-- The text of a refusal. -/
def PathError.message : PathError → String
  | .invalidProject id => "invalid project id '" ++ id ++ "'"
  | .traversal path => "path '" ++ path ++ "' escapes the project directory"

namespace Project

/-- Is the text exactly one name piece? -/
def isSingleName (id : String) : Bool :=
  match FsPath.components id with
  | [.normal _] => true
  | _ => false

/-- Appends the pieces of a relative path to `out`, refusing any `..` or root piece. -/
def appendPieces (relative : String) (out : String) : List Component → Except PathError String
  | [] => .ok out
  | .normal n :: rest => appendPieces relative (FsPath.join out n) rest
  | .curDir :: rest => appendPieces relative out rest
  | .parentDir :: _ => .error (.traversal relative)
  | .rootDir :: _ => .error (.traversal relative)

/-- The path of `relative` inside project `projectId` under `root`. -/
def resolve (root projectId relative : String) : Except PathError String :=
  if isSingleName projectId then
    let stripped := String.ofList (relative.toList.dropWhile (· == '/'))
    appendPieces relative (FsPath.join root projectId) (FsPath.components stripped)
  else .error (.invalidProject projectId)

end Project

end DownloadEngine
