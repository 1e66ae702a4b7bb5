import DownloadEngine.Text.Utf8

/-!
# Percent-encode sets

Each part of an address escapes its own set of ASCII characters as `%XX` of their byte, in
upper-case hexadecimal; a code point beyond ASCII is always escaped, byte by byte of its
UTF-8 form. The sets grow one from another: controls, then fragment, then path, then user
information; query text has a set of its own.
-/

namespace DownloadEngine.Url

/-- The sets of characters that a part of an address escapes. -/
inductive EncodeSet
  /-- C0 controls and delete. -/
  | controls
  /-- Controls, space, `"`, `<`, `>` and the backquote. -/
  | fragment
  /-- The fragment set, `#`, `?`, `{` and `}`. -/
  | path
  /-- The path set, `/`, `:`, `;`, `=`, `@`, `[`, `\`, `]`, `^` and `|`. -/
  | userinfo
  /-- Controls, space, `"`, `#`, `<` and `>`. -/
  | query
  /-- The query set and `'`. -/
  | specialQuery

/-- C0 controls and delete. -/
def isControlByte (c : Char) : Bool := c.toNat < 0x20 || c.toNat = 0x7F

/-- Escaped in a fragment. -/
def inFragmentSet (c : Char) : Bool := isControlByte c || " \"<>`".toList.contains c

/-- Escaped in a path. -/
def inPathSet (c : Char) : Bool := inFragmentSet c || "#?\x7b\x7d".toList.contains c

/-- Escaped in user information. -/
def inUserinfoSet (c : Char) : Bool := inPathSet c || "/:;=@[\\]^|".toList.contains c

/-- Escaped in a query. -/
def inQuerySet (c : Char) : Bool := isControlByte c || " \"#<>".toList.contains c

/-- Whether the set escapes an ASCII character. -/
def EncodeSet.escapes : EncodeSet → Char → Bool
  | .controls => isControlByte
  | .fragment => inFragmentSet
  | .path => inPathSet
  | .userinfo => inUserinfoSet
  | .query => inQuerySet
  | .specialQuery => fun c => inQuerySet c || c == '\''

/-- The upper-case hexadecimal digit of a value below 16. -/
def hexUpper (v : Nat) : Char :=
  if v < 10 then Char.ofNat ('0'.toNat + v) else Char.ofNat ('A'.toNat + v - 10)

/-- The escape of one byte. -/
def escapeByte (b : UInt8) : List Char := ['%', hexUpper (b.toNat / 16), hexUpper (b.toNat % 16)]

/-- One character as it stands in a part that escapes `set`. -/
def EncodeSet.encodeChar (set : EncodeSet) (c : Char) : List Char :=
  if c.toNat < 0x80 && !set.escapes c then [c]
  else (Text.utf8Bytes c).flatMap escapeByte

/-- A text as it stands in a part that escapes `set`. -/
def EncodeSet.encode (set : EncodeSet) (cs : List Char) : String :=
  String.ofList (cs.flatMap set.encodeChar)

end DownloadEngine.Url
