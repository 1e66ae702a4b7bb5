import DownloadEngine.Control
import Mathlib.Logic.Relation

/-!
# What a control token signals

A token reads its own cell and the cells of its ancestors, and its signal is the highest signal
on them. Tokens are made one call at a time: a root token on a fresh cell, a child of a token
already made on a fresh cell under it, or a clone, which is the token it copies (the two share
their cell and their parent). Requests raise signals on tokens already made, in any order.

Every token made has a cell of its own, allocated when it was made, so the cells a token reads
are those of the tokens on its chain and of no other token. A request therefore reaches exactly
the tokens whose chain holds the token it was raised on, and a token's signal is the highest
request raised on it, on a clone of it or on one of its ancestors.

## Main statements

* `Forest.signal_request`: a request raises a token's signal exactly when it lands on a cell the
  token reads.
* `Tokens.Reachable.sound`: after any calls, every token signals the highest request it heard.
* `Tokens.Sound.signal_request`: a request reaches the tokens whose chain holds it and no
  other token.
* `token_signal_law`: the signal law, its growth along later calls, the isolation of a child's
  parent and siblings, and what a checkpoint answers.

## Implementation notes

`Tokens` keeps the requests raised so far beside the cells: the engine never reads that list, it
is what the signals are measured against. A signal is read between two requests.
-/

namespace DownloadEngine

namespace Signal

@[simp] theorem rank_none : rank none = 0 := rfl

@[simp] theorem rank_cancel : rank (some .cancel) = 2 := rfl

theorem rank_le_two (a : Option Signal) : rank a ≤ 2 := by
  rcases a with _ | _ | _ <;> simp [rank]

theorem eq_cancel_of_two_le_rank {a : Option Signal} (h : 2 ≤ rank a) : a = some .cancel :=
  rank_inj (by have := rank_le_two a; simp only [rank_cancel]; omega)

@[simp] theorem join_none_left (a : Option Signal) : join none a = a :=
  rank_inj (by simp [rank_join])

@[simp] theorem join_none_right (a : Option Signal) : join a none = a :=
  rank_inj (by simp [rank_join])

theorem join_assoc (a b c : Option Signal) : join (join a b) c = join a (join b c) :=
  rank_inj (by simp only [rank_join]; omega)

/-- A cancel outranks every signal joined to it. -/
theorem join_cancel_left (a : Option Signal) : join (some .cancel) a = some .cancel :=
  rank_inj (by have := rank_le_two a; simp only [rank_join, rank_cancel]; omega)

theorem join_cancel_right (a : Option Signal) : join a (some .cancel) = some .cancel := by
  rw [join_comm, join_cancel_left]

/-- A join carries a signal exactly when one of its sides does. -/
theorem isSome_join (a b : Option Signal) : (join a b).isSome = (a.isSome || b.isSome) := by
  rcases a with _ | _ | _ <;> rcases b with _ | _ | _ <;> decide

/-- The highest of some signals; none when there are none. -/
def highest (ss : List Signal) : Option Signal := ss.foldr (fun s acc => join (some s) acc) none

@[simp] theorem highest_nil : highest [] = none := rfl

@[simp] theorem highest_cons (s : Signal) (ss : List Signal) :
    highest (s :: ss) = join (some s) (highest ss) := rfl

theorem highest_append (ss ts : List Signal) :
    highest (ss ++ ts) = join (highest ss) (highest ts) := by
  induction ss with
  | nil => simp
  | cons s ss ih => simp [ih, join_assoc]

end Signal

namespace Token

@[simp] theorem cellOf_root (c : Nat) : (root c).cellOf = c := rfl

@[simp] theorem cellOf_child (c : Nat) (p : Token) : (child c p).cellOf = c := rfl

/-- A token and its ancestors, nearest first: the tokens whose cells it reads. -/
def chain : Token → List Token
  | .root c => [.root c]
  | .child c p => .child c p :: p.chain

@[simp] theorem chain_root (c : Nat) : (root c).chain = [root c] := rfl

@[simp] theorem chain_child (c : Nat) (p : Token) : (child c p).chain = child c p :: p.chain :=
  rfl

theorem mem_chain_self (t : Token) : t ∈ t.chain := by
  cases t <;> simp

theorem sizeOf_le_of_mem_chain {t u : Token} (h : u ∈ t.chain) : sizeOf u ≤ sizeOf t := by
  induction t with
  | root c =>
    rw [chain_root, List.mem_singleton] at h
    exact h ▸ Nat.le_refl _
  | child c p ih =>
    rcases List.mem_cons.mp h with rfl | h
    · exact Nat.le_refl _
    · have := ih h
      simp only [child.sizeOf_spec]
      omega

/-- A child is neither its parent nor one of its parent's ancestors. -/
theorem child_not_mem_chain (c : Nat) (p : Token) : child c p ∉ p.chain := fun h => by
  have := sizeOf_le_of_mem_chain h
  simp only [child.sizeOf_spec] at this
  omega

end Token

namespace Forest

@[simp] theorem fresh_length (f : Forest) : f.fresh.1.cells.length = f.cells.length + 1 := by
  simp [fresh]

@[simp] theorem newToken_fst (f : Forest) : f.newToken.1 = f.fresh.1 := rfl

@[simp] theorem newToken_snd (f : Forest) : f.newToken.2 = .root f.cells.length := rfl

@[simp] theorem childOf_fst (f : Forest) (t : Token) : (f.childOf t).1 = f.fresh.1 := rfl

@[simp] theorem childOf_snd (f : Forest) (t : Token) :
    (f.childOf t).2 = .child f.cells.length t := rfl

@[simp] theorem request_length (f : Forest) (t : Token) (s : Signal) :
    (f.request t s).cells.length = f.cells.length := by
  simp [request]

theorem cell_of_length_le (f : Forest) {c : Nat} (h : f.cells.length ≤ c) : f.cell c = none := by
  simp [cell, List.getElem?_eq_none h]

/-- A fresh cell holds no signal, and the cells before it keep theirs. -/
theorem cell_fresh (f : Forest) (c : Nat) : f.fresh.1.cell c = f.cell c := by
  unfold fresh cell
  by_cases h : c < f.cells.length
  · rw [List.getElem?_append_left h]
  · rw [List.getElem?_eq_none (Nat.le_of_not_lt h),
      List.getElem?_append_right (Nat.le_of_not_lt h)]
    cases c - f.cells.length <;> rfl

theorem signal_fresh (f : Forest) (t : Token) : f.fresh.1.signal t = f.signal t := by
  induction t with
  | root c => simp [signal, cell_fresh]
  | child c p ih => simp [signal, cell_fresh, ih]

/-- A request raises the cell of its token and leaves the other cells alone. -/
theorem cell_request (f : Forest) {t : Token} (ht : t.cellOf < f.cells.length) (s : Signal)
    (c : Nat) :
    (f.request t s).cell c =
      if t.cellOf = c then Signal.join (f.cell c) (some s) else f.cell c := by
  unfold request cell
  rw [List.getElem?_modify]
  split
  · next h =>
    subst h
    simp [List.getElem?_eq_getElem ht]
  · cases f.cells[c]? <;> rfl

/-- A request raises a token's signal exactly when its cell is one the token reads. -/
theorem signal_request (f : Forest) {t : Token} (ht : t.cellOf < f.cells.length) (s : Signal)
    (u : Token) :
    (f.request t s).signal u =
      if t.cellOf ∈ u.chain.map Token.cellOf then Signal.join (f.signal u) (some s)
      else f.signal u := by
  induction u with
  | root c => simp [signal, cell_request f ht s c]
  | child c p ih =>
    simp only [signal, cell_request f ht s c, ih, Token.chain_child, List.map_cons,
      Token.cellOf_child, List.mem_cons]
    -- the request lands on the child's own cell, on one of its ancestors' cells, on both or on
    -- neither; in each case the joins agree by their ranks
    by_cases hc : t.cellOf = c
    · rw [if_pos hc, if_pos (Or.inl hc)]
      split <;> apply Signal.rank_inj <;> simp only [Signal.rank_join] <;> omega
    · rw [if_neg hc]
      split
      · next hp =>
        rw [if_pos (Or.inr hp)]
        apply Signal.rank_inj
        simp only [Signal.rank_join]
        omega
      · next hp => rw [if_neg (fun h => h.elim hc hp)]

theorem checkpoint_eq_stop_iff (f : Forest) (t : Token) (s : Signal) :
    f.checkpoint t = .stop s ↔ f.signal t = some s := by
  unfold checkpoint
  split <;> simp_all

theorem checkpoint_eq_continue_iff (f : Forest) (t : Token) :
    f.checkpoint t = .continue ↔ f.signal t = none := by
  unfold checkpoint
  split <;> simp_all

end Forest

/-- Control tokens in use: their cells, the tokens made so far, newest first (a clone is made as
the token it copies), and the requests raised so far, newest first. -/
structure Tokens where
  forest : Forest
  made : List Token
  raised : List (Token × Signal)

namespace Tokens

/-- No tokens yet. -/
def empty : Tokens := ⟨Forest.empty, [], []⟩

/-- One call on the tokens: make a root token, a child or a clone of a token made, or raise a
signal on one. -/
inductive Step : Tokens → Tokens → Prop where
  | new (x : Tokens) : Step x ⟨x.forest.newToken.1, x.forest.newToken.2 :: x.made, x.raised⟩
  | child (x : Tokens) {t : Token} (h : t ∈ x.made) :
      Step x ⟨(x.forest.childOf t).1, (x.forest.childOf t).2 :: x.made, x.raised⟩
  | clone (x : Tokens) {t : Token} (h : t ∈ x.made) : Step x ⟨x.forest, t :: x.made, x.raised⟩
  | request (x : Tokens) {t : Token} (h : t ∈ x.made) (s : Signal) :
      Step x ⟨x.forest.request t s, x.made, (t, s) :: x.raised⟩

/-- The tokens that some calls make from none. -/
def Reachable (x : Tokens) : Prop := Relation.ReflTransGen Step empty x

/-- The signals raised on a token, on a clone of it or on one of its ancestors, newest first. -/
def heard (x : Tokens) (t : Token) : List Signal :=
  (x.raised.filter fun r => r.1 ∈ t.chain).map (·.2)

/-- What every sequence of calls keeps true of the tokens. -/
structure Sound (x : Tokens) : Prop where
  /-- The ancestors of a token made were made. -/
  closed : ∀ t ∈ x.made, ∀ u ∈ t.chain, u ∈ x.made
  /-- Every token made has its cell. -/
  allocated : ∀ t ∈ x.made, t.cellOf < x.forest.cells.length
  /-- Tokens made on one cell are one token. -/
  unique : ∀ t ∈ x.made, ∀ u ∈ x.made, t.cellOf = u.cellOf → t = u
  /-- Requests are raised on tokens made. -/
  raised_made : ∀ r ∈ x.raised, r.1 ∈ x.made
  /-- Every token made signals the highest request it heard. -/
  signal_eq : ∀ t ∈ x.made, x.forest.signal t = Signal.highest (x.heard t)

theorem sound_empty : empty.Sound where
  closed := by simp [empty]
  allocated := by simp [empty]
  unique := by simp [empty]
  raised_made := by simp [empty]
  signal_eq := by simp [empty]

variable {x : Tokens}

/-- In a sound state a token reads the cell of a token made exactly when the latter is on its
chain: cells are never shared. -/
theorem Sound.cellOf_mem_iff (h : x.Sound) {t u : Token} (ht : t ∈ x.made) (hu : u ∈ x.made) :
    t.cellOf ∈ u.chain.map Token.cellOf ↔ t ∈ u.chain := by
  constructor
  · intro hm
    obtain ⟨v, hv, hcell⟩ := List.mem_map.mp hm
    rw [← h.unique v (h.closed u hu v hv) t ht hcell]
    exact hv
  · exact List.mem_map_of_mem

/-- No request has been raised on a token that sits on the fresh cell. -/
theorem Sound.heard_fresh (h : x.Sound) {t : Token} (tail : List Token)
    (hchain : t.chain = t :: tail) (hfresh : t.cellOf = x.forest.cells.length) :
    x.heard t = (x.raised.filter fun r => r.1 ∈ tail).map (·.2) := by
  unfold heard
  congr 1
  apply List.filter_congr
  intro r hr
  have hne : r.1 ≠ t := fun heq =>
    Nat.ne_of_lt (h.allocated r.1 (h.raised_made r hr)) (heq ▸ hfresh)
  simp [hchain, hne]

theorem Sound.new (h : x.Sound) :
    Sound ⟨x.forest.newToken.1, x.forest.newToken.2 :: x.made, x.raised⟩ where
  closed t ht u hu := by
    simp only [Forest.newToken_snd, List.mem_cons] at ht ⊢
    rcases ht with rfl | ht
    · exact .inl (List.mem_singleton.mp hu)
    · exact .inr (h.closed t ht u hu)
  allocated t ht := by
    simp only [Forest.newToken_fst, Forest.newToken_snd, Forest.fresh_length,
      List.mem_cons] at ht ⊢
    rcases ht with rfl | ht
    · simp
    · exact Nat.lt_succ_of_lt (h.allocated t ht)
  unique t ht u hu hc := by
    simp only [Forest.newToken_snd, List.mem_cons] at ht hu
    -- the new token's cell is fresh, so it shares it with no token made before
    rcases ht with rfl | ht <;> rcases hu with rfl | hu
    · rfl
    · exact absurd hc.symm (Nat.ne_of_lt (h.allocated u hu))
    · exact absurd hc (Nat.ne_of_lt (h.allocated t ht))
    · exact h.unique t ht u hu hc
  raised_made r hr := List.mem_cons_of_mem _ (h.raised_made r hr)
  signal_eq t ht := by
    simp only [Forest.newToken_fst, Forest.newToken_snd, List.mem_cons] at ht ⊢
    rw [Forest.signal_fresh]
    rcases ht with rfl | ht
    · -- nothing was raised on the new token, and its fresh cell holds nothing
      show Forest.signal _ _ = Signal.highest (x.heard _)
      have hnone : x.heard (.root x.forest.cells.length) = [] := by
        rw [h.heard_fresh [] (Token.chain_root _) rfl]
        simp
      rw [hnone, Forest.signal, Forest.cell_of_length_le _ (Nat.le_refl _), Signal.highest_nil]
    · exact h.signal_eq t ht

theorem Sound.child (h : x.Sound) {p : Token} (hp : p ∈ x.made) :
    Sound ⟨(x.forest.childOf p).1, (x.forest.childOf p).2 :: x.made, x.raised⟩ where
  closed t ht u hu := by
    simp only [Forest.childOf_snd, List.mem_cons] at ht ⊢
    rcases ht with rfl | ht
    · rcases List.mem_cons.mp hu with rfl | hu
      · exact .inl rfl
      · exact .inr (h.closed p hp u hu)
    · exact .inr (h.closed t ht u hu)
  allocated t ht := by
    simp only [Forest.childOf_fst, Forest.childOf_snd, Forest.fresh_length,
      List.mem_cons] at ht ⊢
    rcases ht with rfl | ht
    · simp
    · exact Nat.lt_succ_of_lt (h.allocated t ht)
  unique t ht u hu hc := by
    simp only [Forest.childOf_snd, List.mem_cons] at ht hu
    rcases ht with rfl | ht <;> rcases hu with rfl | hu
    · rfl
    · exact absurd hc.symm (Nat.ne_of_lt (h.allocated u hu))
    · exact absurd hc (Nat.ne_of_lt (h.allocated t ht))
    · exact h.unique t ht u hu hc
  raised_made r hr := List.mem_cons_of_mem _ (h.raised_made r hr)
  signal_eq t ht := by
    simp only [Forest.childOf_fst, Forest.childOf_snd, List.mem_cons] at ht ⊢
    rw [Forest.signal_fresh]
    rcases ht with rfl | ht
    · -- the child hears what its parent heard, and its own fresh cell holds nothing
      show Forest.signal _ _ = Signal.highest (x.heard _)
      rw [h.heard_fresh p.chain (Token.chain_child _ p) rfl, Forest.signal,
        Forest.cell_of_length_le _ (Nat.le_refl _), Signal.join_none_left]
      exact h.signal_eq p hp
    · exact h.signal_eq t ht

theorem Sound.clone (h : x.Sound) {t : Token} (ht : t ∈ x.made) :
    Sound ⟨x.forest, t :: x.made, x.raised⟩ :=
  -- a clone is a token already made, so every fact about the made tokens carries over
  have hmade : ∀ u ∈ t :: x.made, u ∈ x.made := fun _ hu =>
    (List.mem_cons.mp hu).elim (fun h => h ▸ ht) id
  { closed := fun u hu v hv => List.mem_cons_of_mem _ (h.closed u (hmade u hu) v hv)
    allocated := fun u hu => h.allocated u (hmade u hu)
    unique := fun u hu v hv => h.unique u (hmade u hu) v (hmade v hv)
    raised_made := fun r hr => List.mem_cons_of_mem _ (h.raised_made r hr)
    signal_eq := fun u hu => h.signal_eq u (hmade u hu) }

/-- A request raised on a token made reaches exactly the tokens whose chain holds it. -/
theorem Sound.signal_request (h : x.Sound) {t : Token} (ht : t ∈ x.made) (s : Signal)
    {u : Token} (hu : u ∈ x.made) :
    (x.forest.request t s).signal u =
      if t ∈ u.chain then Signal.join (x.forest.signal u) (some s) else x.forest.signal u := by
  rw [Forest.signal_request _ (h.allocated t ht)]
  by_cases hc : t ∈ u.chain
  · rw [if_pos ((h.cellOf_mem_iff ht hu).mpr hc), if_pos hc]
  · rw [if_neg (mt (h.cellOf_mem_iff ht hu).mp hc), if_neg hc]

theorem Sound.request (h : x.Sound) {t : Token} (ht : t ∈ x.made) (s : Signal) :
    Sound ⟨x.forest.request t s, x.made, (t, s) :: x.raised⟩ where
  closed := h.closed
  allocated u hu := by simpa using h.allocated u hu
  unique := h.unique
  raised_made r hr := by
    rcases List.mem_cons.mp hr with rfl | hr
    · exact ht
    · exact h.raised_made r hr
  signal_eq u hu := by
    simp only [heard] at h ⊢
    rw [h.signal_request ht s hu, h.signal_eq u hu]
    by_cases hc : t ∈ u.chain <;> simp [hc, heard, Signal.join_comm]

theorem Step.sound {y : Tokens} (hs : Step x y) (h : x.Sound) : y.Sound := by
  cases hs with
  | new => exact h.new
  | child hp => exact h.child hp
  | clone ht => exact h.clone ht
  | request ht s => exact h.request ht s

theorem Reachable.sound (h : x.Reachable) : x.Sound := by
  induction h with
  | refl => exact sound_empty
  | tail _ hs ih => exact hs.sound ih

/-- Calls keep every token made and every request raised, and add requests only in front. -/
theorem Step.grows {y : Tokens} (hs : Step x y) :
    (∀ t ∈ x.made, t ∈ y.made) ∧ ∃ fresh, y.raised = fresh ++ x.raised := by
  cases hs with
  | new => exact ⟨fun t ht => List.mem_cons_of_mem _ ht, [], rfl⟩
  | child => exact ⟨fun t ht => List.mem_cons_of_mem _ ht, [], rfl⟩
  | clone => exact ⟨fun t ht => List.mem_cons_of_mem _ ht, [], rfl⟩
  | request _ s => exact ⟨fun _ ht => ht, [(_, s)], rfl⟩

theorem grows_of_steps {y : Tokens} (hs : Relation.ReflTransGen Step x y) :
    (∀ t ∈ x.made, t ∈ y.made) ∧ ∃ fresh, y.raised = fresh ++ x.raised := by
  induction hs with
  | refl => exact ⟨fun t ht => ht, [], rfl⟩
  | tail _ hs ih =>
    obtain ⟨hmade, fresh, hraised⟩ := ih
    obtain ⟨hmade', fresh', hraised'⟩ := hs.grows
    exact ⟨fun t ht => hmade' t (hmade t ht), fresh' ++ fresh, by simp [hraised', hraised]⟩

/-- A token's signal is the one it had, joined with what later calls raised on its chain. -/
theorem Reachable.signal_later (h : x.Reachable) {y : Tokens}
    (hs : Relation.ReflTransGen Step x y) {t : Token} (ht : t ∈ x.made) :
    ∃ later : List Signal,
      y.forest.signal t = Signal.join (Signal.highest later) (x.forest.signal t) := by
  obtain ⟨hmade, fresh, hraised⟩ := grows_of_steps hs
  have hy : y.Reachable := h.trans hs
  refine ⟨(fresh.filter fun r => r.1 ∈ t.chain).map (·.2), ?_⟩
  rw [hy.sound.signal_eq t (hmade t ht), h.sound.signal_eq t ht, heard, hraised,
    List.filter_append, List.map_append, Signal.highest_append, heard]

end Tokens

open Tokens in
/-- The signal law of control tokens, over every tree of tokens made by `new`, `child` and
`clone` and every order of requests on them: a token signals the highest request raised so far
on it, on a clone of it or on one of its ancestors; a request reaches exactly the tokens whose
chain holds the token it was raised on; so later calls never lower a signal, a cancel once seen
stays, and a request on a child reaches neither its parent nor its siblings. A checkpoint stops
for the signal when there is one and lets the work continue otherwise. -/
theorem token_signal_law :
    (∀ x : Tokens, x.Reachable → ∀ t ∈ x.made, x.forest.signal t = Signal.highest (x.heard t)) ∧
    (∀ x : Tokens, x.Reachable → ∀ t ∈ x.made, ∀ (s : Signal), ∀ u ∈ x.made,
        (x.forest.request t s).signal u =
          if t ∈ u.chain then Signal.join (x.forest.signal u) (some s) else x.forest.signal u) ∧
    (∀ x y : Tokens, x.Reachable → Relation.ReflTransGen Step x y → ∀ t ∈ x.made,
        Signal.rank (x.forest.signal t) ≤ Signal.rank (y.forest.signal t) ∧
        (x.forest.signal t = some .cancel → y.forest.signal t = some .cancel)) ∧
    (∀ x : Tokens, x.Reachable → ∀ (c : Nat) (p : Token), Token.child c p ∈ x.made →
        ∀ s : Signal,
        (x.forest.request (.child c p) s).signal p = x.forest.signal p ∧
        ∀ c', Token.child c' p ∈ x.made → c' ≠ c →
          (x.forest.request (.child c p) s).signal (.child c' p) =
            x.forest.signal (.child c' p)) ∧
    (∀ (f : Forest) (t : Token) (s : Signal), f.checkpoint t = .stop s ↔ f.signal t = some s) ∧
    (∀ (f : Forest) (t : Token), f.checkpoint t = .continue ↔ f.signal t = none) := by
  refine ⟨fun x h => h.sound.signal_eq, fun x h t ht s u hu => h.sound.signal_request ht s hu,
    ?later, ?isolated, Forest.checkpoint_eq_stop_iff, Forest.checkpoint_eq_continue_iff⟩
  case later =>
    intro x y h hs t ht
    obtain ⟨later, hlater⟩ := h.signal_later hs ht
    have hle : Signal.rank (x.forest.signal t) ≤ Signal.rank (y.forest.signal t) := by
      rw [hlater]
      exact Signal.le_join_right _ _
    refine ⟨hle, fun hc => Signal.eq_cancel_of_two_le_rank ?_⟩
    rw [hc] at hle
    exact hle
  case isolated =>
    intro x h c p hc s
    have hsound := h.sound
    have hp : p ∈ x.made := hsound.closed _ hc p (by simp [Token.mem_chain_self])
    refine ⟨?parent, fun c' hc' hne => ?sibling⟩
    case parent =>
      rw [hsound.signal_request hc s hp, if_neg (Token.child_not_mem_chain c p)]
    case sibling =>
      -- a sibling reads its own cell and its parent's line, and the child is neither
      have hnot : Token.child c p ∉ (Token.child c' p).chain := by
        simp only [Token.chain_child, List.mem_cons, Token.child.injEq, not_or]
        exact ⟨fun h => hne h.1.symm, Token.child_not_mem_chain c p⟩
      rw [hsound.signal_request hc s hc', if_neg hnot]

/-- A cancel on a child leaves its parent running; a pause on the parent reaches a later child,
and the first child keeps its cancel. -/
example :
    let (f, parent) := Forest.empty.newToken
    let (f, child) := f.childOf parent
    let f := f.request child .cancel
    let (f, other) := f.childOf parent
    let f := f.request parent .pause
    f.signal parent = some .pause ∧ f.signal other = some .pause ∧
      f.signal child = some .cancel := by
  decide

end DownloadEngine
