import DownloadEngine.Text.Unicode
import DownloadEngine.Text.Utf8

/-!
# Safe file names

A name becomes one safe path component in three passes. Path separators, NUL, control
characters and white space become `_`, a run of them giving one `_` (also after an `_` of
the name itself). Dots, underscores and spaces are then cut from both ends, so the result is
never `.`, `..` or a hidden name. Last, the name is cut to at most 255 bytes, at a character
boundary. The result may be empty.
-/

namespace DownloadEngine.Filename

open Text

/-- The longest file name, in bytes. -/
def nameMax : Nat := 255

/-- Characters that may not stand in a file name: NUL, `/`, `\`, controls, white space. -/
def isUnsafe (c : Char) : Bool :=
  c == '\x00' || c == '/' || c == '\\' || isControl c || isWhiteSpace c

/-- Characters cut from both ends of a name: dot, underscore and space. -/
def isEdge (c : Char) : Bool := c == '.' || c == '_' || c == ' '

/-- Replaces unsafe characters by `_`, writing no `_` right after another; `prev` is the
last character written so far. -/
def replaceUnsafe (prev : Option Char) : List Char → List Char
  | [] => []
  | c :: cs =>
    if isUnsafe c then
      if prev == some '_' then replaceUnsafe prev cs else '_' :: replaceUnsafe (some '_') cs
    else c :: replaceUnsafe (some c) cs

/-- Cuts edge characters from both ends. -/
def trimEdges (cs : List Char) : List Char :=
  ((cs.dropWhile isEdge).reverse.dropWhile isEdge).reverse

/-- The longest prefix of whole characters within `budget` UTF-8 bytes. -/
def takeBytes (budget : Nat) : List Char → List Char
  | [] => []
  | c :: cs => if utf8Length c ≤ budget then c :: takeBytes (budget - utf8Length c) cs else []

/-- The safe form of a file name. -/
def sanitize (name : String) : String :=
  String.ofList (takeBytes nameMax (trimEdges (replaceUnsafe none name.toList)))

end DownloadEngine.Filename
