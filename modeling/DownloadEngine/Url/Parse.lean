import DownloadEngine.Url.Record

/-!
# Reading an address

The reader takes an absolute address, with no base to resolve against. Blanks and controls
around the text are dropped, and tabs and line breaks anywhere in it. The scheme comes first
and decides the rest:

* a special scheme skips every `/` and `\` after the `:` and reads an authority;
* `file` reads a host after `//`. A drive letter such as `C:` or `c|` that is the first
  segment of the path is written `C:` and leaves the address without a host. With an empty
  host or `localhost`, the slash after it opens an empty first segment, so a drive letter
  right after `///` is not one; empty segments at the start are dropped once the path is
  read. Where a tab or line break stood between a first segment `C:` and more text, the
  drive letter is split off and the rest of the segment is kept as written;
* any other scheme reads an authority after `//`, a path after `/`, and otherwise an opaque
  path.

A path is read segment by segment; `.` segments vanish and `..` segments drop the segment
before them, in their escaped spellings too, unless that segment reads as a drive letter.
Each part escapes its own set of characters.
-/

namespace DownloadEngine.Url

/-- Whether a character is dropped wherever it stands: a tab or a line break. -/
def isIgnored (c : Char) : Bool := c == '\t' || c == '\n' || c == '\r'

/-- Drops tabs and line breaks, pairing each character kept with whether one stood right
before it. -/
def markBreaks (broken : Bool) : List Char → List (Char × Bool)
  | [] => []
  | c :: rest =>
    if isIgnored c then markBreaks true rest else (c, broken) :: markBreaks false rest

/-- The characters of an address: blanks and controls at both ends dropped, and every tab and
line break, each character kept paired with whether a tab or line break stood right before
it. -/
def marked (input : String) : List (Char × Bool) :=
  let edge := fun (c : Char) => c.toNat ≤ 0x20
  markBreaks false ((input.toList.dropWhile edge).reverse.dropWhile edge).reverse

/-- The characters of an address, as the reader sees them. -/
def clean (input : String) : List Char := (marked input).map (·.1)

/-- Characters that may follow the first letter of a scheme. -/
def isSchemeChar (c : Char) : Bool :=
  c.isAlphanum || c == '+' || c == '-' || c == '.'

/-- Splits off the lower-cased scheme and the text after its `:`. -/
def splitScheme : List Char → Option (String × List Char)
  | c :: rest =>
    if c.isAlpha then
      let body := rest.takeWhile isSchemeChar
      match rest.drop body.length with
      | ':' :: after => some (String.ofList ((c :: body).map Char.toLower), after)
      | _ => none
    else none
  | [] => none

/-- A slash, or a backslash where the scheme is special. -/
def isSlash (kind : SchemeKind) (c : Char) : Bool :=
  c == '/' || (kind.isSpecial && c == '\\')

/-! ## Paths -/

/-- The spellings of a `..` segment. -/
def isDoubleDot (seg : String) : Bool :=
  seg ∈ ["..", ".%2e", ".%2E", "%2e.", "%2E.", "%2e%2e", "%2e%2E", "%2E%2e", "%2E%2E"]

/-- The spellings of a `.` segment. -/
def isSingleDot (seg : String) : Bool := seg ∈ [".", "%2e", "%2E"]

/-- A drive letter: an ASCII letter and `:` or `|`. -/
def isDriveLetter (seg : List Char) : Bool :=
  match seg with
  | [a, b] => a.isAlpha && (b == ':' || b == '|')
  | _ => false

/-- A drive letter written with `:`. -/
def isNormalDriveLetter (seg : String) : Bool :=
  match seg.toList with
  | [a, ':'] => a.isAlpha
  | _ => false

/-- Drops the last segment, unless it reads as a drive letter (`C:` or `c|`), which a `..`
never removes, whatever the scheme. -/
def shorten (segs : List String) : List String :=
  match segs.getLast? with
  | some d => if isDriveLetter d.toList then segs else segs.dropLast
  | none => segs

/-- What the path reader has gathered so far. -/
structure PathReader where
  /-- The segments closed so far. -/
  segs : List String := []
  /-- The escaped text of the open segment, last character first. -/
  buffer : List Char := []
  /-- Whether the open segment is kept as written, dots and drive letters alike. -/
  literal : Bool := false
  /-- Whether a drive letter opening a `file` path was written as one. -/
  drive : Bool := false

/-- Ends the open segment; `atEnd` tells that no slash follows it. A `file` path whose first
segment is a drive letter has it written with `:`. -/
def closeSegment (kind : SchemeKind) (r : PathReader) (atEnd : Bool) : PathReader :=
  let text := String.ofList r.buffer.reverse
  let literal := r.literal
  let r := { r with buffer := [], literal := false }
  if literal then { r with segs := r.segs ++ [text] }
  else if isDoubleDot text then
    let segs := shorten r.segs
    { r with segs := if atEnd then segs ++ [""] else segs }
  else if isSingleDot text then
    if atEnd then { r with segs := r.segs ++ [""] } else r
  else if kind = .file ∧ r.segs = [] ∧ isDriveLetter text.toList then
    { r with segs := [String.ofList (text.toList.take 1 ++ [':'])], drive := true }
  else { r with segs := r.segs ++ [text] }

/-- Reads path segments up to `?`, `#` or the end. In a `file` path, when the open first
segment is a drive letter `C:` and more of it follows a tab or line break, the drive letter
becomes a segment of its own and the rest is kept as written. -/
def readPath (kind : SchemeKind) (r : PathReader) :
    List (Char × Bool) → PathReader × List Char
  | [] => (closeSegment kind r true, [])
  | (c, broken) :: rest =>
    if isSlash kind c then readPath kind (closeSegment kind r false) rest
    else if c = '?' ∨ c = '#' then (closeSegment kind r true, c :: rest.map (·.1))
    else
      let code := (EncodeSet.path.encodeChar c).reverse
      let text := String.ofList r.buffer.reverse
      if kind = .file ∧ broken ∧ !r.literal ∧ r.segs = [] ∧ isNormalDriveLetter text then
        readPath kind { r with segs := [text], buffer := code, literal := true } rest
      else readPath kind { r with buffer := code ++ r.buffer } rest

/-- Reads an opaque path up to `?`, `#` or the end. -/
def readUnsegmented (cs : List Char) : String × List Char :=
  let body := cs.takeWhile fun c => c ≠ '?' ∧ c ≠ '#'
  (EncodeSet.controls.encode body, cs.drop body.length)

/-- Reads the query after `?` and the fragment after `#`. -/
def readQueryFragment (kind : SchemeKind) (cs : List Char) : Option String × Option String :=
  let fragment (cs : List Char) : Option String :=
    match cs with
    | '#' :: f => some (EncodeSet.fragment.encode f)
    | _ => none
  match cs with
  | '?' :: rest =>
    let q := rest.takeWhile (· ≠ '#')
    let set := if kind.isSpecial then EncodeSet.specialQuery else EncodeSet.query
    (some (set.encode q), fragment (rest.drop q.length))
  | _ => (none, fragment cs)

/-! ## Authorities -/

/-- Where an authority ends. -/
def isAuthorityEnd (kind : SchemeKind) (c : Char) : Bool :=
  c == '/' || c == '?' || c == '#' || (kind.isSpecial && c == '\\')

/-- Splits the user information off an authority: it runs to the last `@` before the
authority ends. An `@` with nothing after it but the end of the authority is an empty
host. -/
def splitUserinfo (kind : SchemeKind) (cs : List Char) :
    Except ParseError (Option (List Char) × List Char) :=
  let auth := cs.takeWhile fun c => !isAuthorityEnd kind c
  if auth.contains '@' then
    let atPos := auth.length - 1 - auth.reverse.idxOf '@'
    let rest := cs.drop (atPos + 1)
    if atPos = 0 then
      match rest with
      | c :: _ => if isAuthorityEnd kind c then .error .emptyHost else .ok (none, rest)
      | [] => .ok (none, rest)
    else .ok (some (cs.take atPos), rest)
  else .ok (none, cs)

/-- The user name and password of the user information; an empty password is none. -/
def readUserinfo (ui : List Char) : String × Option String :=
  let user := ui.takeWhile (· ≠ ':')
  match ui.drop user.length with
  | _ :: pw@(_ :: _) => (EncodeSet.userinfo.encode user, some (EncodeSet.userinfo.encode pw))
  | _ => (EncodeSet.userinfo.encode user, none)

/-- The length of the host text: up to a `:` outside brackets or the end of the authority. -/
def hostLength (kind : SchemeKind) (inside : Bool) : List Char → Nat
  | [] => 0
  | c :: rest =>
    if (c = ':' ∧ !inside) ∨ isAuthorityEnd kind c then 0
    else hostLength kind (if c = '[' then true else if c = ']' then false else inside) rest + 1

/-- The largest port. -/
def portMax : Nat := 65535

/-- Reads a port: decimal digits, ended by a slash, backslash, `?`, `#` or the end. -/
def readPort (cs : List Char) : Except ParseError (Option Nat × List Char) :=
  let digits := cs.takeWhile Char.isDigit
  let rest := cs.drop digits.length
  let value := digits.foldl (fun v c => v * 10 + (c.toNat - '0'.toNat)) 0
  let endsWell := match rest with
    | c :: _ => c == '/' || c == '\\' || c == '?' || c == '#'
    | [] => true
  if value > portMax ∨ !endsWell then .error .invalidPort
  else .ok (if digits.isEmpty then none else some value, rest)

/-- Reads an authority and gives the text after it. -/
def readAuthority (scheme : String) (kind : SchemeKind) (cs : List Char) :
    Except ParseError (Authority × List Char) := do
  let (ui, rest) ← splitUserinfo kind cs
  let (username, password) := match ui with
    | some u => readUserinfo u
    | none => ("", none)
  let n := hostLength kind false rest
  let hostChars := rest.take n
  let rest := rest.drop n
  if kind.isSpecial ∧ hostChars = [] then throw .emptyHost
  let host ← if kind.isSpecial then Host.parse (String.ofList hostChars)
    else Host.parseGeneric (String.ofList hostChars)
  let host : Option Host := if host = .domain "" then none else some host
  if host.isNone ∧ rest.head? = some ':' then throw .emptyHost
  let (port, rest) ← match rest with
    | ':' :: more => readPort more
    | _ => pure (none, rest)
  let port := if port = defaultPort scheme then none else port
  if host.isNone ∧ (username ≠ "" ∨ password.isSome) then throw .emptyHost
  pure (⟨username, password, host, port⟩, rest)

/-! ## Whole addresses -/

/-- Puts the parts together once the path has been read. -/
def assemble (scheme : String) (kind : SchemeKind) (authority : Option Authority)
    (path : Path) (rest : List Char) : Record :=
  let (query, fragment) := readQueryFragment kind rest
  ⟨scheme, authority, path, query, fragment⟩

/-- Reads the path that starts right after a `/`, up to `?`, `#` or the end. -/
def segmentsAfterSlash (kind : SchemeKind) (cs : List Char) : Path × List Char :=
  let (r, rest) := readPath kind {} (cs.map (·, false))
  (.segments r.segs, rest)

/-- Skips one slash, if there is one. -/
def dropSlash (kind : SchemeKind) : List Char → List Char
  | c :: rest => if isSlash kind c then rest else c :: rest
  | [] => []

/-- Skips one slash, if there is one, of characters paired with their marks. -/
def dropMarkedSlash : List (Char × Bool) → List (Char × Bool)
  | m :: rest => if isSlash .file m.1 then rest else m :: rest
  | [] => []

/-- Empty segments at the start of a `file` path are dropped; the root stays. -/
def dropLeadingEmpty (segs : List String) : List String :=
  match segs.dropWhile (· = "") with
  | [] => [""]
  | kept => kept

/-- Reads the path of a `file` address from `r` and puts the address together. A drive letter
opening the path leaves the address without a host. -/
def filePath (host : Option Host) (r : PathReader) (ms : List (Char × Bool)) : Record :=
  let (r, rest) := readPath .file r ms
  let host := if r.drive then none else host
  assemble "file" .file (some ⟨"", none, host, none⟩) (.segments (dropLeadingEmpty r.segs)) rest

/-- Reads what follows `file:`. After `//` comes a host, unless it is a drive letter; with no
host, or `localhost`, the slash after it opens an empty first segment. -/
def fileBytes (ms : List (Char × Bool)) : Except ParseError Record :=
  match ms.map (·.1) with
  | a :: b :: more =>
    if isSlash .file a ∧ isSlash .file b then
      let hostChars := more.takeWhile fun c => !isAuthorityEnd .file c
      let afterHost := (ms.drop 2).drop hostChars.length
      if isDriveLetter hostChars then .ok (filePath none {} (ms.drop 2))
      else if hostChars = [] then .ok (filePath none {} afterHost)
      else do
        let host ← Host.parse (String.ofList hostChars)
        if host = .domain "localhost" then .ok (filePath none {} afterHost)
        else .ok (filePath (some host) {} (dropMarkedSlash afterHost))
    else .ok (filePath none {} (dropMarkedSlash ms))
  | _ => .ok (filePath none {} (dropMarkedSlash ms))

/-- Reads an absolute address. -/
def parse (input : String) : Except ParseError Record := do
  let ms := marked input
  let some (scheme, rest) := splitScheme (ms.map (·.1)) | throw .relativeWithoutBase
  match SchemeKind.of scheme with
  | .file => fileBytes (ms.drop (ms.length - rest.length))
  | .special =>
    let (authority, rest) ← readAuthority scheme .special
      (rest.dropWhile fun c => c = '/' ∨ c = '\\')
    let (path, rest) := segmentsAfterSlash .special (dropSlash .special rest)
    pure (assemble scheme .special (some authority) path rest)
  | .other =>
    match rest with
    | '/' :: '/' :: more =>
      let (authority, rest) ← readAuthority scheme .other more
      let (path, rest) := match rest with
        | [] => (Path.segments [], [])
        | '?' :: _ => (Path.segments [], rest)
        | '#' :: _ => (Path.segments [], rest)
        | _ => segmentsAfterSlash .other (dropSlash .other rest)
      pure (assemble scheme .other (some authority) path rest)
    | '/' :: more =>
      let (path, rest) := segmentsAfterSlash .other more
      pure (assemble scheme .other none path rest)
    | _ =>
      let (text, rest) := readUnsegmented rest
      pure (assemble scheme .other none (.unsegmented text) rest)

end DownloadEngine.Url
