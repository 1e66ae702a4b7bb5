import DownloadEngine.Text.Unicode
import DownloadEngine.Text.Percent

/-!
# Content-Disposition file names

A `Content-Disposition` value is a list of `;`-separated parameters, each `name=value`.
Names are compared without case and with blanks trimmed. An extended `filename*` parameter
whose value starts with `UTF-8''` (in any case) wins as soon as its percent-decoded rest is
non-empty. Otherwise the last non-empty plain `filename` wins: quotes around it are removed,
backslash escapes of `"` and `\` are undone, and percent escapes are decoded.

The marker of an extended value is compared on the value's bytes, lowercased one by one, and
cut off as a slice of as many bytes; a slice that fell inside a character would panic.
-/

namespace DownloadEngine.Filename

open Text

/-- The part before the first `sep` and the part after it, if `sep` occurs. -/
def splitOnce (sep : Char) (cs : List Char) : Option (List Char × List Char) :=
  match cs.span (· != sep) with
  | (before, _ :: after) => some (before, after)
  | (_, []) => none

/-- Removes one pair of double quotes, or else one pair of single quotes, around a value of
at least two bytes. -/
def stripQuotes (cs : List Char) : List Char :=
  let strip (q : Char) : Option (List Char) :=
    match cs with
    | a :: rest@(_ :: _) => if a == q && rest.getLast? == some q then some rest.dropLast else none
    | _ => none
  match strip '"' with
  | some inner => inner
  | none => (strip '\'').getD cs

/-- Undoes backslash escapes of `"` and `\`; any other escaped character keeps its backslash,
and a trailing backslash stays. -/
def unescape : List Char → List Char
  | [] => []
  | ['\\'] => ['\\']
  | '\\' :: c :: rest =>
    if c == '"' || c == '\\' then c :: unescape rest else '\\' :: c :: unescape rest
  | c :: rest => c :: unescape rest

/-- The bytes of the prefix that marks a UTF-8 extended value, in lowercase. -/
def utf8Marker : List UInt8 := utf8 "utf-8''"

/-- A byte in ASCII lowercase: a capital letter becomes small, every other byte stays. -/
def lowerByte (b : UInt8) : UInt8 := if 65 ≤ b ∧ b ≤ 90 then b + 32 else b

/-- What follows the first `n` bytes of a text, when a character starts at byte `n` or the text
ends there; a byte slice anywhere else falls inside a character, and panics. -/
def dropBytes? (n : Nat) : List Char → Option (List Char)
  | [] => if n = 0 then some [] else none
  | c :: cs =>
    if n = 0 then some (c :: cs)
    else if (utf8Bytes c).length ≤ n then dropBytes? (n - (utf8Bytes c).length) cs else none

/-- What one parameter says about the file name. -/
inductive Hint where
  /-- An extended `filename*` value, decided at once. -/
  | extended (name : String)
  /-- A plain `filename` value, replaced by later ones. -/
  | plain (name : String)
  | nothing

/-- Reads one trimmed parameter. -/
def readParam (param : List Char) : Hint :=
  match splitOnce '=' param with
  | none => .nothing
  | some (name, value) =>
    let key := String.ofList ((dropBlankBack (dropBlankFront name)).map Char.toLower)
    let value := dropBlankBack (dropBlankFront value)
    if key == "filename*" then
      if ((value.flatMap utf8Bytes).map lowerByte).take utf8Marker.length == utf8Marker then
        match dropBytes? utf8Marker.length value with
        | some encoded =>
          let decoded := percentDecodeLossy (String.ofList (stripQuotes encoded))
          if decoded.isEmpty then .nothing else .extended decoded
        -- never taken: the bytes just compared are ASCII, so the cut falls between characters
        | none => .nothing
      else .nothing
    else if key == "filename" then
      let decoded := percentDecodeLossy (String.ofList (unescape (stripQuotes value)))
      if decoded.isEmpty then .nothing else .plain decoded
    else .nothing

/-- Walks the parameters, keeping the last plain name seen. -/
def pickName (plain : Option String) : List (List Char) → Option String
  | [] => plain
  | p :: ps =>
    match readParam p with
    | .extended name => some name
    | .plain name => pickName (some name) ps
    | .nothing => pickName plain ps

/-- The file name a `Content-Disposition` value gives, if any. -/
def dispositionName? (value : String) : Option String :=
  pickName none ((value.toList.splitOn ';').map fun p => dropBlankBack (dropBlankFront p))

end DownloadEngine.Filename
