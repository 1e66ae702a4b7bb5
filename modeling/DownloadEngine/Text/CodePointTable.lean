import DownloadEngine.Text.Hex

/-!
# Code point tables

A property of the Unicode character database gives every code point a value, and the value
changes only at a few thousand places. A table lists those places: each entry is a first code
point and the value that holds from it up to the next entry's first code point. Code points
below the first entry have a default value.

Tables are written as text, entries separated by blanks, each entry `HEX=VALUE`: the first
code point in hexadecimal and the value as a short word. They are read once, into two arrays
searched by halving. A table of single keys, such as decompositions, is read the same way and
looked up only at the keys it lists.

## Main statements

* `lastAtMost_lt`: the entry found for a code point lies within the table.
-/

namespace DownloadEngine.Text

/-- A property as a table of value changes: `starts` is increasing, and `values[i]` holds from
`starts[i]` up to `starts[i + 1]`. -/
structure CodePointTable (α : Type) where
  starts : Array Nat
  values : Array α
  fallback : α

namespace CodePointTable

/-- The entries of a table text: its words split at their first `=`; words without a
readable code point are skipped. -/
def entries (text : String) : List (Nat × String) :=
  (text.split Char.isWhitespace).toList.filterMap fun word =>
    let (code, rest) := word.toString.toList.span (· != '=')
    match readHex? code, rest with
    | some start, _ :: value => if code.isEmpty then none else some (start, String.ofList value)
    | _, _ => none

/-- Reads a table from its text, reading each value with `read`. -/
def ofText {α : Type} (fallback : α) (read : String → α) (text : String) : CodePointTable α :=
  let es := entries text
  ⟨(es.map (·.1)).toArray, (es.map (read ·.2)).toArray, fallback⟩

/-- The index of the last start at most `c` in `starts[lo:hi]`, given that every start before
`lo` is at most `c`; `lo` itself when there is none from `lo` on. -/
def search (starts : Array Nat) (c lo hi : Nat) : Nat :=
  if h : lo < hi then
    let mid := (lo + hi) / 2
    if starts[mid]?.getD 0 ≤ c then search starts c (mid + 1) hi else search starts c lo mid
  else lo
termination_by hi - lo
decreasing_by all_goals omega

/-- How many starts are at most `c`, for an increasing array. -/
def countAtMost (starts : Array Nat) (c : Nat) : Nat := search starts c 0 starts.size

/-- The index of the entry that holds at `c`, if some entry starts at or before it. -/
def lastAtMost {α : Type} (t : CodePointTable α) (c : Nat) : Option Nat :=
  match countAtMost t.starts c with
  | 0 => none
  | n + 1 => some n

/-- The value at a code point. -/
def get {α : Type} (t : CodePointTable α) (c : Nat) : α :=
  match t.lastAtMost c with
  | some i => t.values[i]?.getD t.fallback
  | none => t.fallback

/-- The value of the entry that starts exactly at a key, for tables that list single keys. -/
def find? {α : Type} (t : CodePointTable α) (key : Nat) : Option α :=
  match t.lastAtMost key with
  | some i => if t.starts[i]? = some key then t.values[i]? else none
  | none => none

/-- The code points written in hexadecimal and joined by `.`, such as `61.300`. -/
def readCodePoints (v : String) : List Char :=
  ((v.splitOn ".").filterMap fun w => readHex? w.toList).map Char.ofNat

theorem search_le (starts : Array Nat) (c lo hi : Nat) (h : lo ≤ hi) :
    search starts c lo hi ≤ hi := by
  fun_induction search starts c lo hi with
  | case1 lo hi hlt mid _ ih => exact ih (by omega)
  | case2 lo hi hlt mid _ ih => exact Nat.le_trans (ih (by omega)) (by omega)
  | case3 lo hi hlt => exact h

theorem lastAtMost_lt {α : Type} (t : CodePointTable α) (c i : Nat) (h : t.lastAtMost c = some i) :
    i < t.starts.size := by
  unfold lastAtMost countAtMost at h
  have := search_le t.starts c 0 t.starts.size (Nat.zero_le _)
  split at h
  · cases h
  · cases h
    omega

end CodePointTable

end DownloadEngine.Text
