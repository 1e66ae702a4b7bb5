/-!
# Stop signals and control tokens

A task is asked to stop by a signal, pause or cancel; cancel outranks pause. A control token
holds a cell that requests raise, never lower, and may have a parent token whose signal it
inherits. Clones share their cell and parent; a child gets a fresh cell and the token it came
from as parent. A token's signal is the highest signal on its own cell and along its chain of
parents; a request on a child never reaches its parent or siblings.

## Main statements

* `Signal.join_comm`, `Signal.le_join_left`: joining signals is taking the higher one.
* `Signal.rank_join`: the rank of a join is the larger rank.
-/

namespace DownloadEngine

/-- A request to stop: pause keeps the work, cancel discards it. -/
inductive Signal where
  | pause
  | cancel
  deriving DecidableEq, Repr

namespace Signal

/-- The rank of an optional signal: none below pause below cancel. -/
def rank : Option Signal → Nat
  | none => 0
  | some .pause => 1
  | some .cancel => 2

/-- The higher of two optional signals. -/
def join (a b : Option Signal) : Option Signal :=
  if rank b ≤ rank a then a else b

/-- The name of a signal as words print it: `Pause` or `Cancel`. -/
def title : Signal → String
  | .pause => "Pause"
  | .cancel => "Cancel"

/-- The lowercase name of a signal. -/
def name : Signal → String
  | .pause => "pause"
  | .cancel => "cancel"

theorem rank_inj {a b : Option Signal} (h : rank a = rank b) : a = b := by
  rcases a with _ | _ | _ <;> rcases b with _ | _ | _ <;> simp_all [rank]

theorem join_comm (a b : Option Signal) : join a b = join b a := by
  unfold join
  split <;> split
  · exact rank_inj (by omega)
  · rfl
  · rfl
  · omega

theorem le_join_left (a b : Option Signal) : rank a ≤ rank (join a b) := by
  unfold join
  split <;> omega

theorem le_join_right (a b : Option Signal) : rank b ≤ rank (join a b) := by
  unfold join
  split <;> omega

theorem rank_join (a b : Option Signal) : rank (join a b) = max (rank a) (rank b) := by
  unfold join
  split <;> omega

end Signal

/-- What a checkpoint tells the work: go on, or stop for a signal. -/
inductive Flow where
  | continue
  | stop (s : Signal)
  deriving DecidableEq, Repr

/-- A control token: its own cell and, for a child, the token it came from. -/
inductive Token where
  | root (cell : Nat)
  | child (cell : Nat) (parent : Token)
  deriving DecidableEq, Repr

/-- The cell of a token. -/
def Token.cellOf : Token → Nat
  | .root c => c
  | .child c _ => c

/-- The cells of all tokens: the signal raised on each so far. -/
structure Forest where
  cells : List (Option Signal)
  deriving DecidableEq, Repr

namespace Forest

/-- No cells yet. -/
def empty : Forest := ⟨[]⟩

/-- The signal raised on a cell. -/
def cell (f : Forest) (i : Nat) : Option Signal := (f.cells[i]?).getD none

/-- A fresh cell, and its number. -/
def fresh (f : Forest) : Forest × Nat := (⟨f.cells ++ [none]⟩, f.cells.length)

/-- The signal a token sees: the highest on its cell and its parents' cells. -/
def signal (f : Forest) : Token → Option Signal
  | .root c => f.cell c
  | .child c p => Signal.join (f.cell c) (f.signal p)

/-- Raises a signal on a token's cell; a lower signal leaves the cell as it is. -/
def request (f : Forest) (t : Token) (s : Signal) : Forest :=
  let c := Token.cellOf t
  ⟨f.cells.modify c fun old => Signal.join old (some s)⟩

/-- Continue, or stop for the token's signal. -/
def checkpoint (f : Forest) (t : Token) : Flow :=
  match f.signal t with
  | some s => .stop s
  | none => .continue

/-- A new root token and the forest that holds its cell. -/
def newToken (f : Forest) : Forest × Token :=
  let (f', c) := f.fresh
  (f', .root c)

/-- A child of `t`: a fresh cell under `t`. -/
def childOf (f : Forest) (t : Token) : Forest × Token :=
  let (f', c) := f.fresh
  (f', .child c t)

end Forest

end DownloadEngine
