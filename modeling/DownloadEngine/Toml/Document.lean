import DownloadEngine.Toml.Value

/-!
# Building a TOML document

The tables of a document are built as its lines are read. A table is made in one of three
ways, and that decides what may later be added to it:

* a header `[a.b]` defines table `b` and makes `a` on the way (implicitly) if it is new; an
  implicit table may be defined by its own header later, once;
* a dotted key `a.b = 1` makes `a` as a dotted table, which later dotted keys of the same
  table may extend but no header may define;
* `[[a]]` appends a table to the array of tables `a`; later headers below `a` go into that
  last table.

A key is given at most once in a table, and values (inline tables and arrays included) are
never opened again.

Entries keep the order in which they were made, except that a header moves its table to the
end of the table above it: a table defined by a header takes its place when it is written, even
if an earlier header had already made it implicitly.
-/

namespace DownloadEngine.Toml

/-- How a table was made. -/
inductive Origin
  | implicit
  | header
  | dotted
  deriving DecidableEq, Repr

/-- A table under construction and what it holds. -/
inductive Node
  | value (v : Value)
  | table (origin : Origin) (entries : List (String × Node))
  | tableArray (items : List (List (String × Node)))

/-- The entries of a table under construction, in the order they were made. -/
abbrev Entries := List (String × Node)

namespace Entries

/-- The node of a key. -/
def get? (es : Entries) (key : String) : Option Node := (es.find? (·.1 == key)).map (·.2)

/-- Removes a key and its node, keeping the order of the others. -/
def erase (es : Entries) (key : String) : Entries := es.filter (·.1 != key)

/-- Replaces the node of a key. -/
def set (es : Entries) (key : String) (n : Node) : Entries :=
  es.map fun (k, m) => if k == key then (k, n) else (k, m)

/-- Applies `f` to the last table of an array of tables. -/
def onLast (items : List Entries) (f : Entries → Except SyntaxError Entries) :
    Except SyntaxError (List Entries) :=
  match items.getLast? with
  | some last => do pure (items.dropLast ++ [← f last])
  | none => .error (.notATable "")

/-- Puts a value at a dotted key; tables on the way are dotted tables. -/
def putValue (es : Entries) : List String → Value → Except SyntaxError Entries
  | [], _ => .error (.unexpected "")
  | [k], v =>
    match es.get? k with
    | some _ => .error (.duplicate k)
    | none => .ok (es ++ [(k, .value v)])
  | k :: ks, v =>
    match es.get? k with
    | none => do pure (es ++ [(k, .table .dotted (← putValue [] ks v))])
    | some (.table .dotted sub) => do pure (es.set k (.table .dotted (← putValue sub ks v)))
    | some _ => .error (.notATable k)

/-- Goes down the keys of a header to its last key and applies `atLast` there. Tables on the
way may be of any origin, an array of tables stands for its last table, and new keys make
implicit tables. -/
def descend (atLast : Entries → String → Except SyntaxError Entries) (es : Entries) :
    List String → Except SyntaxError Entries
  | [] => .error (.unexpected "")
  | [k] => atLast es k
  | k :: ks =>
    match es.get? k with
    | none => do pure (es ++ [(k, .table .implicit (← descend atLast [] ks))])
    | some (.table o sub) => do pure (es.set k (.table o (← descend atLast sub ks)))
    | some (.tableArray items) => do
      pure (es.set k (.tableArray (← onLast items fun sub => descend atLast sub ks)))
    | some (.value _) => .error (.notATable k)

/-- Defines the table of a header `[keys]`, as the last entry of the table above it. -/
def defineTable (es : Entries) (keys : List String) : Except SyntaxError Entries :=
  descend (fun es k =>
    match es.get? k with
    | none => .ok (es ++ [(k, .table .header [])])
    | some (.table .implicit sub) => .ok (es.erase k ++ [(k, .table .header sub)])
    | some _ => .error (.duplicate k)) es keys

/-- Appends a table to the array of tables of a header `[[keys]]`. -/
def appendTable (es : Entries) (keys : List String) : Except SyntaxError Entries :=
  descend (fun es k =>
    match es.get? k with
    | none => .ok (es ++ [(k, .tableArray [[]])])
    | some (.tableArray items) => .ok (es.set k (.tableArray (items ++ [[]])))
    | some _ => .error (.duplicate k)) es keys

/-- Puts a value at a dotted key of the table that the header keys `path` name. -/
def putValueAt (es : Entries) (path : List String) (keys : List String) (v : Value) :
    Except SyntaxError Entries :=
  match path with
  | [] => putValue es keys v
  | k :: ks =>
    match es.get? k with
    | some (.table o sub) => do pure (es.set k (.table o (← putValueAt sub ks keys v)))
    | some (.tableArray items) => do
      pure (es.set k (.tableArray (← onLast items fun sub => putValueAt sub ks keys v)))
    | _ => .error (.notATable k)

end Entries

mutual

/-- The value of a finished node. -/
def Node.toValue : Node → Value
  | .value v => v
  | .table _ es => .table (entriesToValue es)
  | .tableArray items => .array (tablesToValue items)

/-- The entries of a finished table. -/
def entriesToValue : List (String × Node) → List (String × Value)
  | [] => []
  | (k, n) :: rest => (k, n.toValue) :: entriesToValue rest

/-- The tables of a finished array of tables. -/
def tablesToValue : List (List (String × Node)) → List Value
  | [] => []
  | es :: rest => .table (entriesToValue es) :: tablesToValue rest

end

end DownloadEngine.Toml
