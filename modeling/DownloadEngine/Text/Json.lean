import DownloadEngine.Decimal.Shortest

/-!
# JSON documents

The engine reports records as JSON: objects with named fields, arrays, strings, booleans,
null, unsigned and signed integers, and doubles. Text is compact. A string escapes the
quote, the backslash and the control characters below U+0020; other characters are
written as they are. A double is written in its shortest form, and NaN and the infinities,
which JSON cannot hold, are written as the strings `"NaN"`, `"inf"` and `"-inf"`. The
indented text puts each member of an array or object on a line of its own.
-/

namespace DownloadEngine

/-- A JSON document. -/
inductive JsonValue where
  | null
  | bool (b : Bool)
  | nat (n : Nat)
  | int (i : Int)
  | double (x : Float)
  | str (s : String)
  | arr (items : List JsonValue)
  | obj (fields : List (String × JsonValue))
  deriving Inhabited

namespace JsonValue

/-- A lowercase hexadecimal digit. -/
def hexDigit (n : Nat) : Char :=
  if n < 10 then Char.ofNat (48 + n) else Char.ofNat (87 + n)

/-- The escaped form of one character inside a string. -/
def escapeChar (c : Char) : List Char :=
  if c = '"' then ['\\', '"']
  else if c = '\\' then ['\\', '\\']
  else if c = '\n' then ['\\', 'n']
  else if c = '\r' then ['\\', 'r']
  else if c = '\t' then ['\\', 't']
  else if c.val = 8 then ['\\', 'b']
  else if c.val = 12 then ['\\', 'f']
  else if c.val < 32 then
    ['\\', 'u', '0', '0', hexDigit (c.val.toNat / 16), hexDigit (c.val.toNat % 16)]
  else [c]

/-- A string literal: quotes around the escaped characters. -/
def quote (s : String) : String :=
  String.ofList ('"' :: (s.toList.flatMap escapeChar ++ ['"']))

/-- The text of a double: its shortest form, or a string for NaN and the infinities. -/
def doubleText (x : Float) : String :=
  match Decimal.shortText? x with
  | some t => t
  | none => if x != x then quote "NaN" else if x > 0 then quote "inf" else quote "-inf"

/-- The compact text of a document. -/
def render : JsonValue → String
  | .null => "null"
  | .bool b => if b then "true" else "false"
  | .nat n => toString n
  | .int i => if i < 0 then "-" ++ toString i.natAbs else toString i.natAbs
  | .double x => doubleText x
  | .str s => quote s
  | .arr items => "[" ++ ",".intercalate (items.attach.map fun ⟨v, _⟩ => render v) ++ "]"
  | .obj fields =>
    "\x7b" ++ ",".intercalate (fields.attach.map fun ⟨(k, v), _⟩ => quote k ++ ":" ++ render v) ++ "\x7d"
decreasing_by
  all_goals simp_wf
  · have := List.sizeOf_lt_of_mem ‹_ ∈ items›
    omega
  · have := List.sizeOf_lt_of_mem ‹_ ∈ fields›
    simp at this
    omega

/-- Two spaces for each level of depth. -/
def indent (depth : Nat) : String := String.ofList (List.replicate (2 * depth) ' ')

/-- The indented text of a document at a depth: each member of a non-empty array or object
stands on its own line, one level deeper than its brackets, and a colon is followed by a
space. Empty arrays and objects, and all other values, are written as in the compact text. -/
def pretty (depth : Nat) : JsonValue → String
  | .arr [] => "[]"
  | .obj [] => "\x7b\x7d"
  | .arr items =>
    "[\n" ++ ",\n".intercalate (items.attach.map fun ⟨v, _⟩ =>
      indent (depth + 1) ++ pretty (depth + 1) v) ++ "\n" ++ indent depth ++ "]"
  | .obj fields =>
    "\x7b\n" ++ ",\n".intercalate (fields.attach.map fun ⟨(k, v), _⟩ =>
      indent (depth + 1) ++ quote k ++ ": " ++ pretty (depth + 1) v) ++ "\n" ++ indent depth ++ "\x7d"
  | v => render v
termination_by v => v
decreasing_by
  all_goals simp_wf
  · have := List.sizeOf_lt_of_mem ‹_ ∈ items›
    omega
  · have := List.sizeOf_lt_of_mem ‹_ ∈ fields›
    simp at this
    omega

/-- An optional value, or null. -/
def ofOption {α : Type} (f : α → JsonValue) : Option α → JsonValue
  | some a => f a
  | none => .null

end JsonValue

end DownloadEngine
