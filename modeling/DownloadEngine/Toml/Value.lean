/-!
# TOML values

A TOML document is a table of keys in the order they were first written. A value is a
string, a 64-bit integer, a float, a boolean, a date or time (kept as its text), an array, or
a table. A document that breaks the grammar or its table rules is refused with a
`SyntaxError`; its cause is kept for the reader of the code, not shown.
-/

namespace DownloadEngine.Toml

/-- A TOML value. -/
inductive Value
  | string (s : String)
  | integer (i : Int)
  | float (x : Float)
  | boolean (b : Bool)
  | datetime (text : String)
  | array (items : List Value)
  | table (entries : List (String × Value))

/-- Why a text is no TOML document. -/
inductive SyntaxError
  /-- The text breaks the grammar. -/
  | unexpected (rest : String)
  /-- A string literal is malformed. -/
  | badString
  /-- A number is malformed or out of range. -/
  | badNumber (text : String)
  /-- A date or time is malformed. -/
  | badDatetime (text : String)
  /-- A key is given twice, or a table is defined twice. -/
  | duplicate (key : String)
  /-- A key runs through a value that is not an open table. -/
  | notATable (key : String)
  deriving Repr

/-- The entry of a key in a table. -/
def lookup (entries : List (String × Value)) (key : String) : Option Value :=
  (entries.find? (·.1 == key)).map (·.2)

end DownloadEngine.Toml
