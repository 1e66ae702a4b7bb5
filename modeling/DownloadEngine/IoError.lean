/-!
# Input/output errors

A failed file operation reports a kind and a text. Errors of the operating system read
`<description> (os error <code>)`; errors the engine makes itself carry their own text. A
path may be put in front of the text.
-/

namespace DownloadEngine

/-- What went wrong with a file operation. -/
inductive IoKind where
  | notFound
  | alreadyExists
  | isADirectory
  | notADirectory
  | directoryNotEmpty
  | resourceBusy
  | invalidData
  | invalidInput
  | interrupted
  | uncategorized
  | other
  deriving DecidableEq, Repr

/-- The name of a kind, as its type spells it. -/
def IoKind.name : IoKind → String
  | .notFound => "NotFound"
  | .alreadyExists => "AlreadyExists"
  | .isADirectory => "IsADirectory"
  | .notADirectory => "NotADirectory"
  | .directoryNotEmpty => "DirectoryNotEmpty"
  | .resourceBusy => "ResourceBusy"
  | .invalidData => "InvalidData"
  | .invalidInput => "InvalidInput"
  | .interrupted => "Interrupted"
  | .uncategorized => "Uncategorized"
  | .other => "Other"

/-- A failed file operation: its kind and its text. -/
structure IoError where
  kind : IoKind
  text : String
  deriving DecidableEq, Repr

namespace IoError

/-- An operating-system error with its number and description. -/
def os (kind : IoKind) (code : Nat) (description : String) : IoError :=
  ⟨kind, description ++ " (os error " ++ toString code ++ ")"⟩

/-- No such file or directory. -/
def notFound : IoError := os .notFound 2 "No such file or directory"

/-- The path already exists. -/
def alreadyExists : IoError := os .alreadyExists 17 "File exists"

/-- A directory stands where a file was expected. -/
def isADirectory : IoError := os .isADirectory 21 "Is a directory"

/-- A file stands where a directory was expected. -/
def notADirectory : IoError := os .notADirectory 20 "Not a directory"

/-- The directory still holds entries. -/
def directoryNotEmpty : IoError := os .directoryNotEmpty 39 "Directory not empty"

/-- The path is in use: a rename from or onto a path that ends in `.` or `..`. -/
def resourceBusy : IoError := os .resourceBusy 16 "Device or resource busy"

/-- An argument the operation cannot take, such as moving a directory into itself. -/
def invalidArgument : IoError := os .invalidInput 22 "Invalid argument"

/-- The same error with a path in front of its text. -/
def atPath (path : String) (e : IoError) : IoError := ⟨e.kind, path ++ ": " ++ e.text⟩

end IoError

end DownloadEngine
