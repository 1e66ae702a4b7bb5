import DownloadEngine.Toml.Scalar
import DownloadEngine.Toml.Document

/-!
# Reading a TOML document

A document is read line by line. A line is blank, a comment, a table header `[key]`, an
array-of-tables header `[[key]]`, or a key, `=` and a value; a comment may end any of them.
Keys are bare (`A-Z a-z 0-9 _ -`) or quoted, and may be dotted. Arrays may spread over lines
and hold comments, and end with an optional comma; inline tables stay on one line and have
no trailing comma. A byte order mark may open the document.

Depth is limited: a dotted key has fewer than `depthLimit` parts, and arrays and inline tables
nest fewer than `depthLimit` deep. The reader's fuel, the length of the text, bounds its
steps.
-/

namespace DownloadEngine.Toml

/-- Drops blanks. -/
def skipBlanks (cs : List Char) : List Char := cs.dropWhile isBlank

/-- Drops blanks, comments and line breaks, as between the items of an array. -/
def skipSpace (inComment : Bool) : List Char → Except SyntaxError (List Char)
  | [] => .ok []
  | '\n' :: r => skipSpace false r
  | '\r' :: '\n' :: r => skipSpace false r
  | c :: r =>
    if inComment then
      if isForbiddenControl c then .error (.unexpected "") else skipSpace true r
    else if isBlank c then skipSpace false r
    else if c == '#' then skipSpace true r
    else .ok (c :: r)

/-- Reads the end of a line: blanks, an optional comment, then a line break or the end. A
comment holds no control but the tab; a carriage return may end it only before a line feed. -/
def endOfLine (cs : List Char) : Except SyntaxError (List Char) :=
  match skipBlanks cs with
  | '#' :: r =>
    let body := r.takeWhile (· != '\n')
    let rest := r.drop body.length
    let body := if body.getLast? == some '\r' ∧ !rest.isEmpty then body.dropLast else body
    if body.any isForbiddenControl then .error (.unexpected "")
    else .ok (rest.drop 1)
  | [] => .ok []
  | '\n' :: r => .ok r
  | '\r' :: '\n' :: r => .ok r
  | r => .error (.unexpected (String.ofList (r.take 20)))

/-- Characters of a bare key. -/
def isBareKeyChar (c : Char) : Bool :=
  (c.toNat < 0x80 && c.isAlphanum) || c == '_' || c == '-'

/-- Reads one key: bare, or a one-line quoted string. -/
def readSimpleKey (cs : List Char) : Except SyntaxError (String × List Char) :=
  match cs with
  | '"' :: r => readBasic [] r
  | '\'' :: r => readLiteral r
  | _ =>
    let bare := cs.takeWhile isBareKeyChar
    if bare.isEmpty then .error (.unexpected (String.ofList (cs.take 20)))
    else .ok (String.ofList bare, cs.drop bare.length)

/-- Reads the parts of a dotted key. -/
def readKeyParts : Nat → List String → List Char → Except SyntaxError (List String × List Char)
  | 0, _, _ => .error (.unexpected "")
  | fuel + 1, acc, cs => do
    let (k, r) ← readSimpleKey cs
    match skipBlanks r with
    | '.' :: more => readKeyParts fuel (k :: acc) (skipBlanks more)
    | _ => pure ((k :: acc).reverse, r)

/-- How deep keys and values may go: the parts of a dotted key, and arrays and inline tables
inside each other, stay below this. -/
def depthLimit : Nat := 80

/-- Reads a dotted key. -/
def readKey (cs : List Char) : Except SyntaxError (List String × List Char) := do
  let (keys, r) ← readKeyParts (cs.length + 1) [] cs
  if keys.length ≥ depthLimit then throw (.unexpected "") else pure (keys, r)

mutual

/-- Reads a value that stands `depth` arrays and inline tables deep. -/
def readValue : Nat → Nat → List Char → Except SyntaxError (Value × List Char)
  | 0, _, _ => .error (.unexpected "")
  | fuel + 1, depth, cs =>
    match cs with
    | '"' :: '"' :: '"' :: r =>
      (readMultiBasic [] (dropFirstBreak r)).map fun (s, r) => (.string s, r)
    | '"' :: r => (readBasic [] r).map fun (s, r) => (.string s, r)
    | '\'' :: '\'' :: '\'' :: r =>
      (readMultiLiteral [] (dropFirstBreak r)).map fun (s, r) => (.string s, r)
    | '\'' :: r => (readLiteral r).map fun (s, r) => (.string s, r)
    | '[' :: r =>
      if depth + 1 ≥ depthLimit then .error (.unexpected "[") else readArray fuel (depth + 1) [] r
    | '{' :: r =>
      if depth + 1 ≥ depthLimit then .error (.unexpected "\x7b")
      else readInline fuel (depth + 1) [] true r
    | _ => readAtom cs

/-- Reads the items of an array after `[`; `acc` holds those read, last first. -/
def readArray : Nat → Nat → List Value → List Char → Except SyntaxError (Value × List Char)
  | 0, _, _, _ => .error (.unexpected "")
  | fuel + 1, depth, acc, cs => do
    match ← skipSpace false cs with
    | ']' :: r => pure (.array acc.reverse, r)
    | cs =>
      let (v, r) ← readValue fuel depth cs
      match ← skipSpace false r with
      | ',' :: r => readArray fuel depth (v :: acc) r
      | ']' :: r => pure (.array (v :: acc).reverse, r)
      | r => .error (.unexpected (String.ofList (r.take 20)))

/-- Reads the entries of an inline table after `{`. -/
def readInline : Nat → Nat → Entries → Bool → List Char → Except SyntaxError (Value × List Char)
  | 0, _, _, _, _ => .error (.unexpected "")
  | fuel + 1, depth, es, first, cs => do
    match skipBlanks cs with
    | '}' :: r =>
      if first then pure (.table [], r) else .error (.unexpected "\x7d")
    | cs =>
      let (keys, r) ← readKey cs
      match skipBlanks r with
      | '=' :: r =>
        let (v, r) ← readValue fuel depth (skipBlanks r)
        let es ← es.putValue keys v
        match skipBlanks r with
        | ',' :: r => readInline fuel depth es false r
        | '}' :: r => pure (.table (entriesToValue es), r)
        | r => .error (.unexpected (String.ofList (r.take 20)))
      | r => .error (.unexpected (String.ofList (r.take 20)))

end

/-- What the line reader carries: the tables so far and the keys of the current header. -/
structure Reader where
  root : Entries
  current : List String

/-- Reads the lines of a document. -/
def readLines : Nat → Reader → List Char → Except SyntaxError Entries
  | 0, _, _ => .error (.unexpected "")
  | fuel + 1, st, cs =>
    match skipBlanks cs with
    | [] => .ok st.root
    | '\n' :: r => readLines fuel st r
    | '\r' :: '\n' :: r => readLines fuel st r
    | '#' :: r => do readLines fuel st (← endOfLine ('#' :: r))
    | '[' :: '[' :: r => do
      let (keys, r) ← readKey (skipBlanks r)
      match skipBlanks r with
      | ']' :: ']' :: r =>
        let root ← st.root.appendTable keys
        readLines fuel ⟨root, keys⟩ (← endOfLine r)
      | r => .error (.unexpected (String.ofList (r.take 20)))
    | '[' :: r => do
      let (keys, r) ← readKey (skipBlanks r)
      match skipBlanks r with
      | ']' :: r =>
        let root ← st.root.defineTable keys
        readLines fuel ⟨root, keys⟩ (← endOfLine r)
      | r => .error (.unexpected (String.ofList (r.take 20)))
    | line => do
      let (keys, r) ← readKey line
      match skipBlanks r with
      | '=' :: r =>
        let r := skipBlanks r
        let (v, r) ← readValue (r.length + 1) 0 r
        let root ← st.root.putValueAt st.current keys v
        readLines fuel ⟨root, st.current⟩ (← endOfLine r)
      | r => .error (.unexpected (String.ofList (r.take 20)))

/-- Reads a TOML document into its root table. -/
def parse (text : String) : Except SyntaxError (List (String × Value)) := do
  let cs := match text.toList with
    | '\uFEFF' :: rest => rest
    | cs => cs
  let es ← readLines (cs.length + 1) ⟨[], []⟩ cs
  pure (entriesToValue es)

end DownloadEngine.Toml
