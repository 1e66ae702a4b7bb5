import DownloadEngine.Chunk.Merge
import DownloadEngine.Proofs.PathPieces
import DownloadEngine.Proofs.TreeLaws
import Mathlib.Data.List.Forall2

/-!
# Merges are all or nothing

A merge either leaves the chunks' bytes, in order, at the destination, with the staging file
gone and the chunk files removed, or fails with the first failure it meets and leaves the
destination and every chunk path as they were, with no staging file. `mergeOutcome` reads that
failure off the tree the merge starts from and the token's state at each check, in the order
the merge meets them: the staging file cannot be created; for each chunk in turn, a stop signal
at its check, before it is opened, then the chunk cannot be opened (its error, after its path)
or is a directory (`IsADirectory` alone); the total length; a stop signal at the check before
the rename; the rename onto the destination.

The tree is well formed, no directory stands at the staging path, and no chunk path names the
destination's file or the staging file. The staging path and the destination never name the
same place: the staging path's last name is the destination's last piece with `.part` after
it (`names_partFor_ne`).

## Main statements

* `names_partFor_ne`: the staging file is never the destination.
* `copyFrom_eq`: copying the chunks writes their bytes, in order, to the staging file, up to the
  first check that finds a signal.
* `at?_foldl_discard`: removing the chunk files leaves nothing at their paths.
* `merge_all_or_nothing`: the merge ends as `mergeOutcome` says, all or nothing.
-/

namespace DownloadEngine.Chunk

open FileTree

/-! ## What a merge should give -/

/-- The bytes a merge copies from a chunk path: a file's bytes; an error after the path when
it cannot be opened, and `IsADirectory` alone when it opens to a directory. -/
def readChunk (t : FileTree) (chunk : String) : Except IoError (List UInt8) :=
  match t.openRead chunk with
  | .error e => .error (e.atPath chunk)
  | .ok (.file bytes) => .ok bytes
  | .ok .dir => .error IoError.isADirectory

/-- The chunks' bytes, read in order off `t`, the first at check `i`: a signal raised at a
chunk's check ends the reading as an interruption, before that chunk is opened. -/
def readFrom (t : FileTree) (stop : Nat → Option Signal) :
    Nat → List String → Except IoError (List (List UInt8))
  | _, [] => .ok []
  | i, c :: cs =>
    if (stop i).isSome then .error interrupted else
    readChunk t c >>= fun b => (readFrom t stop (i + 1) cs).map (b :: ·)

/-- How a merge should end, read off the tree it starts from and the token's state at each
check: the merged bytes, or the first failure in the order the merge meets them. The chunks are
read from the tree with the empty staging file in it, which is where the merge reads them. -/
def mergeOutcome (t : FileTree) (chunks : List String) (dest : String) (expected : Option Nat)
    (stop : Nat → Option Signal) : Except IoError (List UInt8) := do
  let staged ← t.writeFile (partFor dest) []
  let parts ← readFrom staged stop 0 chunks
  let bytes := parts.flatten
  match expected with
  | some n => if bytes.length ≠ n then throw (lengthMismatch bytes.length n)
  | none => pure ()
  if (stop chunks.length).isSome then throw interrupted
  let full ← t.writeFile (partFor dest) bytes
  let _ ← full.rename (partFor dest) dest
  pure bytes

/-- A reading that succeeds found no signal at its checks and read each chunk whole. -/
theorem readFrom_eq_ok {u : FileTree} {stop : Nat → Option Signal} :
    ∀ {i : Nat} {cs : List String} {parts : List (List UInt8)}, readFrom u stop i cs = .ok parts →
      (∀ j, i ≤ j → j < i + cs.length → stop j = none) ∧
        List.Forall₂ (fun c b => readChunk u c = .ok b) cs parts
  | i, [], parts, h => by
    cases h
    exact ⟨fun j h₁ h₂ => absurd h₂ (by simpa using h₁), .nil⟩
  | i, c :: cs, parts, h => by
    unfold readFrom at h
    by_cases hs : (stop i).isSome
    · rw [if_pos hs] at h
      cases h
    rw [if_neg hs] at h
    cases hr : readChunk u c with
    | error e =>
      rw [hr] at h
      cases h
    | ok b =>
      cases hrest : readFrom u stop (i + 1) cs with
      | error e =>
        rw [hr, hrest] at h
        cases h
      | ok bs =>
        rw [hr, hrest] at h
        cases h
        obtain ⟨hnone, hall⟩ := readFrom_eq_ok hrest
        refine ⟨fun j hij hj => ?_, .cons hr hall⟩
        -- the first check is this chunk's; the later ones are the rest's
        rcases Nat.eq_or_lt_of_le hij with rfl | hlt
        · simpa using hs
        · exact hnone j hlt (by simp only [List.length_cons] at hj; omega)

/-! ## The staging path -/

/-- Text with no separator, appended to a path, is appended to its last segment. -/
theorem splitOn_append_of_sep_not_mem (l : List Char) {s : List Char} (hs : '/' ∉ s) :
    ∃ u seg, l.splitOn '/' = u ++ [seg] ∧ (l ++ s).splitOn '/' = u ++ [seg ++ s] := by
  obtain ⟨hseg, hl⟩ := FsPath.lastSegment_spec l 0
  rw [List.drop_zero] at hl
  generalize (FsPath.lastSegment l 0).1 = seg at hseg hl
  have hseg' : '/' ∉ seg ++ s := by simp [hseg, hs]
  rcases hl with ⟨hl, -⟩ | ⟨u, hl, -⟩
  · -- no separator at all
    refine ⟨[], seg, ?_, ?_⟩
    · rw [hl, List.splitOn_eq_singleton hseg]
      rfl
    · rw [hl, List.splitOn_eq_singleton hseg']
      rfl
  · -- the last segment follows the last separator
    refine ⟨u.splitOn '/', seg, ?_, ?_⟩
    · rw [hl, List.splitOn_append_cons_self, List.splitOn_eq_singleton hseg]
    · rw [hl, List.append_assoc, List.cons_append, List.splitOn_append_cons_self,
        List.splitOn_eq_singleton hseg']

/-- The staging path has the destination's pieces, its last one with `.part` after it; a
destination that ends in a slash gets `.part` as a piece of its own. -/
theorem pieces_partFor (dest : String) :
    ∃ v seg, pieces dest = v ++ (if seg = "" then [] else [seg]) ∧
      pieces (partFor dest) = v ++ [seg ++ ".part"] := by
  have hpart : (partFor dest).toList = dest.toList ++ ".part".toList := by simp [partFor]
  obtain ⟨u, seg, h₁, h₂⟩ :=
    splitOn_append_of_sep_not_mem dest.toList (s := ".part".toList) (by decide)
  refine ⟨(u.map String.ofList).filter (· ≠ ""), String.ofList seg, ?_, ?_⟩
  · unfold pieces
    rw [h₁, List.map_append, List.filter_append]
    by_cases hseg : String.ofList seg = "" <;> simp [hseg]
  · unfold pieces
    rw [hpart, h₂, List.map_append, List.filter_append]
    have hne : String.ofList seg ++ ".part" ≠ "" := by
      intro h
      have := congrArg String.length h
      simp at this
    simp [String.ofList_append, hne]

/-- The staging file never stands where the destination does. -/
theorem names_partFor_ne {t : FileTree} {dest : String} {p q : Place}
    (hp : t.locate dest = .ok p) (hq : t.locate (partFor dest) = .ok q) : p.names ≠ q.names := by
  obtain ⟨v, seg, hd, hpart⟩ := pieces_partFor dest
  have hlen : (seg ++ ".part").length = seg.length + 5 := by
    rw [String.length_append]
    rfl
  -- the staging path's last piece is too long to be `.` or `..`
  have hname : Tail.ofPiece (seg ++ ".part") = .name (seg ++ ".part") := by
    have hdot : seg ++ ".part" ≠ "." := fun h => by
      have := congrArg String.length h
      rw [hlen, show ".".length = 1 from rfl] at this
      omega
    have hup : seg ++ ".part" ≠ ".." := fun h => by
      have := congrArg String.length h
      rw [hlen, show "..".length = 2 from rfl] at this
      omega
    simp only [Tail.ofPiece, if_neg hdot, if_neg hup]
  rw [locate_of_pieces hpart] at hq
  cases hv : v.foldlM t.step [] with
  | error e =>
    rw [hv] at hq
    cases hq
  | ok d =>
    rw [hv] at hq
    cases hq
    -- the staging file is the name `seg ++ ".part"` in the directory `d`
    change p.names ≠ Place.names ⟨d, .ofPiece (seg ++ ".part"), _⟩
    rw [hname]
    change p.names ≠ d ++ [seg ++ ".part"]
    by_cases hseg : seg = ""
    · -- a destination that ends in a slash: the staging file lies in the place it names
      rw [if_pos hseg, List.append_nil] at hd
      rw [names_of_walk hv hd hp]
      simp
    · -- the staging name is the destination's last piece with `.part` after it
      rw [if_neg hseg] at hd
      rw [locate_of_pieces hd, hv] at hp
      cases hp
      refine names_ne_of_piece_ne (fun h => ?_) _
      have := congrArg String.length h
      omega

/-! ## Copying the chunks -/

/-- With no stop signal, a chunk is read and appended to the staging file. -/
theorem copyChunk_none (part : String) (u : FileTree) (w : Nat) (c : String) :
    copyChunk part none (u, w) c =
      readChunk u c >>= fun bytes => (u.appendFile part bytes).map (·, w + bytes.length) := by
  unfold copyChunk readChunk
  simp only [Option.isSome, Bool.false_eq_true, ↓reduceIte]
  cases u.openRead c with
  | error e => rfl
  | ok e =>
    cases e with
    | file bytes =>
      show (u.appendFile part bytes >>= fun v => pure (v, w + bytes.length)) =
        (u.appendFile part bytes).map (·, w + bytes.length)
      cases u.appendFile part bytes <;> rfl
    | dir => rfl

/-- Under a raised signal, a chunk is not opened: the copy stops as an interruption. -/
theorem copyChunk_of_isSome (part : String) {s : Option Signal} (hs : s.isSome)
    (acc : FileTree × Nat) (c : String) : copyChunk part s acc c = .error interrupted := by
  obtain ⟨sig, rfl⟩ := Option.isSome_iff_exists.1 hs
  obtain ⟨u, w⟩ := acc
  rfl

section Copy

variable {t : FileTree} {part : String} {q : Place}

/-- Copying the chunks, with no stop signal, writes their bytes in order after what the
staging file holds, or stops at the first chunk that cannot be read. A chunk is read alike
whatever the staging file holds, since no chunk path names it. -/
theorem foldlM_copyChunk (hq : t.locate part = .ok q) (hs : q.slash = false)
    (hne : q.names ≠ []) (hnd : t.get? q.names ≠ some .dir) (cs : List String)
    (hcs : ∀ c ∈ cs, ∀ p, t.locate c = .ok p → p.names ≠ q.names) (a : List UInt8) (w : Nat) :
    cs.foldlM (copyChunk part none) (t.put q.names (.file a), w) =
      (cs.mapM (readChunk (t.put q.names (.file [])))).map fun parts =>
        (t.put q.names (.file (a ++ parts.flatten)), w + parts.flatten.length) := by
  induction cs generalizing a w with
  | nil => simp [List.foldlM_nil, Except.map, pure, Except.pure]
  | cons c cs ih =>
    have hread : readChunk (t.put q.names (.file a)) c = readChunk (t.put q.names (.file [])) c := by
      unfold readChunk
      rw [openRead_put_file t q.names a [] (hcs c (by simp)) hne hnd]
    have happ : ∀ bytes, (t.put q.names (.file a)).appendFile part bytes =
        .ok (t.put q.names (.file (a ++ bytes))) := by
      intro bytes
      have hq' := (sameDirs_put_file hnd hne a).symm.locate_eq_ok hq
      rw [appendFile_of_file hq' (by rw [get?_put t hne, if_pos rfl]) hs, put_put]
    rw [List.foldlM_cons, copyChunk_none, hread, List.mapM_cons]
    cases readChunk (t.put q.names (.file [])) c with
    | error e => rfl
    | ok bytes =>
      simp only [bind, Except.bind, happ, Except.map]
      rw [ih (fun c hc => hcs c (by simp [hc])) (a ++ bytes) (w + bytes.length)]
      cases cs.mapM (readChunk (t.put q.names (.file []))) with
      | error e => rfl
      | ok parts => simp [Except.map, pure, Except.pure, List.append_assoc, Nat.add_assoc]

/-- Copying the chunks from check `i` on writes their bytes in order after what the staging
file holds, or stops at the first check that finds a signal or the first chunk that cannot be
read, as reading them does. -/
theorem copyFrom_eq (hq : t.locate part = .ok q) (hs : q.slash = false)
    (hne : q.names ≠ []) (hnd : t.get? q.names ≠ some .dir) (cs : List String)
    (hcs : ∀ c ∈ cs, ∀ p, t.locate c = .ok p → p.names ≠ q.names) (stop : Nat → Option Signal)
    (i : Nat) (a : List UInt8) (w : Nat) :
    copyFrom part stop i cs (t.put q.names (.file a), w) =
      (readFrom (t.put q.names (.file [])) stop i cs).map fun parts =>
        (t.put q.names (.file (a ++ parts.flatten)), w + parts.flatten.length) := by
  induction cs generalizing i a w with
  | nil => simp [copyFrom, readFrom, Except.map, pure, Except.pure]
  | cons c cs ih =>
    by_cases hsig : (stop i).isSome
    · -- the check before this chunk finds a signal
      simp only [copyFrom, readFrom, if_pos hsig, copyChunk_of_isSome part hsig]
      rfl
    have hnone : stop i = none := by simpa using hsig
    have hread : readChunk (t.put q.names (.file a)) c = readChunk (t.put q.names (.file [])) c := by
      unfold readChunk
      rw [openRead_put_file t q.names a [] (hcs c (by simp)) hne hnd]
    have happ : ∀ bytes, (t.put q.names (.file a)).appendFile part bytes =
        .ok (t.put q.names (.file (a ++ bytes))) := by
      intro bytes
      have hq' := (sameDirs_put_file hnd hne a).symm.locate_eq_ok hq
      rw [appendFile_of_file hq' (by rw [get?_put t hne, if_pos rfl]) hs, put_put]
    simp only [copyFrom, readFrom, hnone, copyChunk_none, hread]
    cases readChunk (t.put q.names (.file [])) c with
    | error e => rfl
    | ok bytes =>
      simp only [bind, Except.bind, happ, Except.map]
      rw [ih (fun c hc => hcs c (by simp [hc])) (i + 1) (a ++ bytes) (w + bytes.length)]
      cases readFrom (t.put q.names (.file [])) stop (i + 1) cs with
      | error e => rfl
      | ok parts => simp [Except.map, List.append_assoc, Nat.add_assoc]

end Copy

/-! ## Discarding files -/

section Discard

variable {u : FileTree} {path : String}

/-- Discarding a path removes at most the file it walks to. -/
theorem pruned_discard (h : u.WellFormed) (path : String) : Pruned (discard u path) u := by
  unfold discard
  cases hr : u.removeFile path with
  | error e => exact Pruned.refl u
  | ok v =>
    obtain ⟨p, b, -, hg, -, rfl⟩ := removeFile_eq_ok hr
    exact h.pruned_erase (by simp [hg]) (names_ne_nil_of_file hg)

/-- Discarding a path where no directory stands leaves nothing at its place, and all else as
it was. -/
theorem get?_discard (h : u.WellFormed) {q : Place} (hq : u.locate path = .ok q)
    (hs : q.slash = false) (hnd : u.get? q.names ≠ some .dir) (x : List String) :
    (discard u path).get? x = if x = q.names then none else u.get? x := by
  cases hg : u.get? q.names with
  | none =>
    -- nothing stands there, so the removal fails
    unfold discard
    cases hr : u.removeFile path with
    | error e =>
      dsimp only
      split
      · next hx => rw [hx, hg]
      · rfl
    | ok v =>
      obtain ⟨p, b, hp, hpg, -, -⟩ := removeFile_eq_ok hr
      rw [hq] at hp
      cases hp
      rw [hg] at hpg
      cases hpg
  | some e =>
    cases e with
    | file b =>
      unfold discard
      rw [h.removeFile_of_file hq hg hs]
      exact h.get?_erase_of_not_dir (by simp [hg]) (names_ne_nil_of_file hg) x
    | dir => exact absurd hg hnd

/-- Discarding a path whose place is not `x` leaves `x` as it was. -/
theorem get?_discard_of_ne (h : u.WellFormed) {x : List String}
    (hx : ∀ p, u.locate path = .ok p → p.names ≠ x) : (discard u path).get? x = u.get? x := by
  unfold discard
  cases hr : u.removeFile path with
  | error e => rfl
  | ok v =>
    obtain ⟨p, b, hp, hg, -, rfl⟩ := removeFile_eq_ok hr
    rw [h.get?_erase_of_not_dir (by simp [hg]) (names_ne_nil_of_file hg), if_neg (Ne.symm (hx p hp))]

/-- Discarding a path that opens no directory leaves it opening nothing. -/
theorem at?_discard_self (h : u.WellFormed) (hnd : u.at? path ≠ some .dir) :
    (discard u path).at? path = none := by
  cases hat : u.at? path with
  | none => exact (pruned_discard h path).at?_eq_none hat
  | some e =>
    cases e with
    | file b =>
      obtain ⟨p, hp, hg, hs⟩ := at?_eq_some_file hat
      rw [at?_eq_readAt ((pruned_discard h path).1.symm.locate_eq_ok hp)]
      unfold readAt
      rw [get?_discard h hp hs (by simp [hg]), if_pos rfl]
    | dir => exact absurd hat hnd

theorem pruned_foldl_discard (cs : List String) (h : u.WellFormed) :
    Pruned (cs.foldl discard u) u := by
  induction cs generalizing u with
  | nil => exact Pruned.refl u
  | cons c cs ih =>
    have hc := pruned_discard h c
    rw [List.foldl_cons]
    exact (ih (h.of_pruned hc)).trans hc

/-- Discarding paths none of which walks to `x` leaves `x` as it was. -/
theorem get?_foldl_discard (cs : List String) (h : u.WellFormed) {x : List String}
    (hx : ∀ c ∈ cs, ∀ p, u.locate c = .ok p → p.names ≠ x) :
    (cs.foldl discard u).get? x = u.get? x := by
  induction cs generalizing u with
  | nil => rfl
  | cons c cs ih =>
    have hc := pruned_discard h c
    -- the later paths walk alike in the tree with `c` discarded
    have hx' : ∀ c' ∈ cs, ∀ p, (discard u c).locate c' = .ok p → p.names ≠ x :=
      fun c' hc' p hp => hx c' (by simp [hc']) p (hc.1.locate_eq_ok hp)
    rw [List.foldl_cons, ih (h.of_pruned hc) hx', get?_discard_of_ne h (hx c (by simp))]

/-- Every discarded path that opened no directory opens nothing afterwards. -/
theorem at?_foldl_discard (cs : List String) (h : u.WellFormed) {c : String} (hc : c ∈ cs)
    (hnd : u.at? c ≠ some .dir) : (cs.foldl discard u).at? c = none := by
  induction cs generalizing u with
  | nil => cases hc
  | cons c' cs ih =>
    have hp := pruned_discard h c'
    rw [List.foldl_cons]
    by_cases hcc : c = c'
    · -- discarded now, and removing more files opens nothing new
      subst hcc
      exact (pruned_foldl_discard cs (h.of_pruned hp)).at?_eq_none (at?_discard_self h hnd)
    · have hc' : c ∈ cs := by simpa [hcc] using hc
      exact ih (h.of_pruned hp) hc' fun hd => hnd ((hp.1.at?_eq_dir_iff c).mp hd)

end Discard

/-! ## The staging file -/

/-- Where a merge stages its bytes: the staging path walks to a name in a directory, with no
slash after it and no directory there. -/
structure Staging (t : FileTree) (dest : String) (q : Place) : Prop where
  locate : t.locate (partFor dest) = .ok q
  slash : q.slash = false
  tail : ∃ n, q.tail = .name n
  parent : t.get? q.dir = some .dir
  not_dir : t.get? q.names ≠ some .dir

section Staged

variable {t : FileTree} {dest : String} {q : Place}

theorem Staging.names_eq (hst : Staging t dest q) : ∃ n, q.names = q.dir ++ [n] := by
  obtain ⟨n, hn⟩ := hst.tail
  exact ⟨n, by simp [Place.names, hn]⟩

theorem Staging.names_ne_nil (hst : Staging t dest q) : q.names ≠ [] := by
  obtain ⟨n, hn⟩ := hst.names_eq
  simp [hn]

/-- A file can be written at a staging place. -/
theorem Staging.writable (hst : Staging t dest q) :
    ∃ old, t.writable (partFor dest) = .ok (q.names, old) := by
  obtain ⟨n, hn⟩ := hst.tail
  unfold FileTree.writable
  rw [hst.locate]
  dsimp only [bind, Except.bind]
  rw [hn]
  dsimp only
  cases hg : t.get? q.names with
  | none => exact ⟨none, by simp [hst.slash]; rfl⟩
  | some e =>
    cases e with
    | file b => exact ⟨some b, by simp [hst.slash]; rfl⟩
    | dir => exact absurd hg hst.not_dir

/-- A staging path where a file can be written is a staging place. -/
theorem staging_of_writable (hwf : t.WellFormed) {w : List String × Option (List UInt8)}
    (hw : t.writable (partFor dest) = .ok w) : ∃ q, Staging t dest q ∧ q.names = w.1 := by
  obtain ⟨q, n, hq, hn, hnames, hs, hnd⟩ := writable_eq_ok hw
  exact ⟨q, ⟨hq, hs, ⟨n, hn⟩, hwf.locate_dir hq, hnames ▸ hnd⟩, hnames⟩

/-- A staging path where no file can be written, and no directory stands, opens nothing, and
discarding it changes nothing. -/
theorem discard_of_writable_error (hwf : t.WellFormed) {e : IoError}
    (hw : t.writable (partFor dest) = .error e) (hpart : t.at? (partFor dest) ≠ some .dir) :
    t.at? (partFor dest) = none ∧ discard t (partFor dest) = t := by
  have hnone : t.at? (partFor dest) = none := by
    cases hat : t.at? (partFor dest) with
    | none => rfl
    | some e' =>
      cases e' with
      | file b =>
        -- a file there could be written over
        obtain ⟨p, hp, hg, hs⟩ := at?_eq_some_file hat
        rw [hwf.writable_of_file hp hg hs] at hw
        cases hw
      | dir => exact absurd hat hpart
  refine ⟨hnone, ?_⟩
  unfold discard
  cases hr : t.removeFile (partFor dest) with
  | error e' => rfl
  | ok v =>
    obtain ⟨p, b, hp, hg, hs, -⟩ := removeFile_eq_ok hr
    rw [at?_eq_readAt hp] at hnone
    unfold readAt at hnone
    rw [hg, hs] at hnone
    cases hnone

theorem Staging.writeFile (hst : Staging t dest q) (a : List UInt8) :
    t.writeFile (partFor dest) a = .ok (t.put q.names (.file a)) := by
  obtain ⟨old, hw⟩ := hst.writable
  rw [writeFile_eq, hw]
  rfl

theorem Staging.sameDirs_put (hst : Staging t dest q) (a : List UInt8) :
    SameDirs (t.put q.names (.file a)) t :=
  sameDirs_put_file hst.not_dir hst.names_ne_nil a

variable (hwf : t.WellFormed) (hst : Staging t dest q)
include hwf hst

theorem Staging.wellFormed_put (a : List UInt8) : (t.put q.names (.file a)).WellFormed := by
  obtain ⟨n, hn⟩ := hst.names_eq
  rw [hn]
  exact hwf.put_file hst.parent (hn ▸ hst.not_dir) a

/-- A merge that fails discards the staging path from `t`, or from `t` with the staging file
written: the staging path then opens nothing, and every path that does not walk to the
staging file opens as in `t`. -/
theorem at?_discard_staged {u : FileTree} (hu : u = t ∨ ∃ a, u = t.put q.names (.file a)) :
    (discard u (partFor dest)).at? (partFor dest) = none ∧
      ∀ path, (∀ p, t.locate path = .ok p → p.names ≠ q.names) →
        (discard u (partFor dest)).at? path = t.at? path := by
  -- `u` is `t` but at the staging file
  obtain ⟨hwfu, hdirs, hget, hnd⟩ : u.WellFormed ∧ SameDirs u t ∧
      (∀ x, x ≠ q.names → u.get? x = t.get? x) ∧ u.get? q.names ≠ some .dir := by
    rcases hu with rfl | ⟨a, rfl⟩
    · exact ⟨hwf, fun _ => Iff.rfl, fun _ _ => rfl, hst.not_dir⟩
    · refine ⟨hst.wellFormed_put hwf a, hst.sameDirs_put a, fun x hx => ?_, ?_⟩
      · rw [get?_put t hst.names_ne_nil, if_neg hx]
      · rw [get?_put t hst.names_ne_nil, if_pos rfl]
        simp
  have hF := get?_discard hwfu (hdirs.symm.locate_eq_ok hst.locate) hst.slash hnd
  have hFdirs : SameDirs (discard u (partFor dest)) t := (pruned_discard hwfu _).1.trans hdirs
  refine ⟨?_, fun path hpath => ?_⟩
  · rw [at?_eq_readAt (hFdirs.symm.locate_eq_ok hst.locate)]
    unfold readAt
    rw [hF, if_pos rfl]
  · apply hFdirs.at?_congr
    intro p hp
    have hpn := hpath p (hFdirs.locate_eq_ok hp)
    rw [hF, if_neg hpn, hget _ hpn]

/-- Renaming the staging file, holding `bytes`, onto the destination moves the bytes there:
the destination walks to a name with no slash after it, and the tree is `t` with the bytes at
the destination and nothing at the staging file. -/
theorem Staging.rename {bytes : List UInt8} {R : FileTree}
    (hr : (t.put q.names (.file bytes)).rename (partFor dest) dest = .ok R) :
    ∃ g, t.locate dest = .ok g ∧ g.slash = false ∧ q.names ≠ g.names ∧ SameDirs R t ∧
      R.WellFormed ∧
      ∀ x, R.get? x =
        if x = g.names then some (.file bytes) else if x = q.names then none else t.get? x := by
  have hsd := hst.sameDirs_put bytes
  have hqs := hsd.symm.locate_eq_ok hst.locate
  have hf : (t.put q.names (.file bytes)).get? q.names = some (.file bytes) := by
    rw [get?_put t hst.names_ne_nil, if_pos rfl]
  have hne : ∀ g, (t.put q.names (.file bytes)).locate dest = .ok g → q.names ≠ g.names :=
    fun g hg => (names_partFor_ne hg hqs).symm
  obtain ⟨g, n, hg, hgn, hgs, hgd, hReq⟩ := rename_file_eq_ok hqs hf hne hr
  have hgt : t.locate dest = .ok g := hsd.locate_eq_ok hg
  have hD : g.names = g.dir ++ [n] := by simp [Place.names, hgn]
  have hDN : q.names ≠ g.names := hne g hg
  have hDt : t.get? g.names ≠ some .dir := by
    rwa [get?_put t hst.names_ne_nil, if_neg (Ne.symm hDN)] at hgd
  -- the moved tree, read against `t` rather than against the staged tree
  have hR : ∀ x, R.get? x =
      if x = g.names then some (.file bytes) else if x = q.names then none else t.get? x := by
    intro x
    rw [hReq, (hst.wellFormed_put hwf bytes).get?_move_file hf hgd hDN (by simp [hD]) x]
    by_cases hxd : x = g.names
    · simp [hxd]
    · by_cases hxn : x = q.names
      · simp [hxn]
      · rw [if_neg hxd, if_neg hxn, if_neg hxd, if_neg hxn, get?_put t hst.names_ne_nil,
          if_neg hxn]
  exact ⟨g, hgt, hgs, hDN, sameDirs_of_move hR hst.not_dir hDt,
    hwf.of_move hR hst.not_dir hDt hD (hwf.locate_dir hgt), hR⟩

/-- A merge that succeeds renames the staging file, holding `bytes`, onto the destination and
discards the chunk paths: the destination then holds `bytes`, the staging path opens nothing,
and every chunk path that opened no directory opens nothing. -/
theorem at?_merged {chunks : List String} (hcs : ∀ c ∈ chunks, ¬ t.SameFile c dest)
    {bytes : List UInt8} {R : FileTree}
    (hr : (t.put q.names (.file bytes)).rename (partFor dest) dest = .ok R) :
    (chunks.foldl discard R).at? dest = some (.file bytes) ∧
      (chunks.foldl discard R).at? (partFor dest) = none ∧
      ∀ c ∈ chunks, t.at? c ≠ some .dir → (chunks.foldl discard R).at? c = none := by
  obtain ⟨g, hgt, hgs, hDN, hRdirs, hwfR, hR⟩ := hst.rename hwf hr
  have hZ := pruned_foldl_discard chunks hwfR
  have hZdirs : SameDirs (chunks.foldl discard R) t := hZ.1.trans hRdirs
  refine ⟨?_, ?_, ?_⟩
  · -- no chunk path walks to the destination, so its file stays
    have hgetD : (chunks.foldl discard R).get? g.names = some (.file bytes) := by
      rw [get?_foldl_discard chunks hwfR fun c hc p hp =>
          names_ne_of_not_sameFile (hcs c hc) (hRdirs.locate_eq_ok hp) hgt,
        hR, if_pos rfl]
    rw [at?_eq_readAt (hZdirs.symm.locate_eq_ok hgt)]
    unfold readAt
    rw [hgetD, hgs]
    rfl
  · apply hZ.at?_eq_none
    rw [at?_eq_readAt (hRdirs.symm.locate_eq_ok hst.locate)]
    unfold readAt
    rw [hR, if_neg hDN, if_pos rfl]
  · intro c hc hnd
    exact at?_foldl_discard chunks hwfR hc fun hd => hnd ((hRdirs.at?_eq_dir_iff c).mp hd)

end Staged

/-! ## The merge -/

theorem exists_of_forall₂_of_mem {α β : Type} {R : α → β → Prop} :
    ∀ {as : List α} {bs : List β}, List.Forall₂ R as bs → ∀ {a}, a ∈ as → ∃ b, R a b
  | _, _, .nil, _, h => by cases h
  | _, _, .cons hab hrest, _, h => by
    rcases List.mem_cons.mp h with rfl | h
    · exact ⟨_, hab⟩
    · exact exists_of_forall₂_of_mem hrest h

/-- A chunk read whole was a file holding those bytes. -/
theorem at?_of_readChunk {u : FileTree} {c : String} {b : List UInt8}
    (h : readChunk u c = .ok b) : u.at? c = some (.file b) := by
  unfold readChunk at h
  unfold at?
  cases hr : u.openRead c with
  | error e =>
    rw [hr] at h
    cases h
  | ok e =>
    rw [hr] at h
    cases e with
    | file bytes =>
      cases h
      rfl
    | dir => cases h

section Merge

variable {t : FileTree} {dest : String} {q : Place} {chunks : List String}

/-- A merge and what it should give, side by side. A failure leaves the staging path
discarded from `t` or from `t` with the staging file written; a success renames the staged
bytes onto the destination and discards the chunk paths. -/
theorem merge_cases (hst : Staging t dest q)
    (hcs : ∀ c ∈ chunks, ∀ p, t.locate c = .ok p → p.names ≠ q.names)
    (expected : Option Nat) (stop : Nat → Option Signal) :
    (∃ e u, (u = t ∨ ∃ a, u = t.put q.names (.file a)) ∧
      mergeOutcome t chunks dest expected stop = .error e ∧
      merge t chunks dest expected stop = (discard u (partFor dest), .error e)) ∨
    (∃ parts R, mergeOutcome t chunks dest expected stop = .ok parts.flatten ∧
      (∀ i, i ≤ chunks.length → stop i = none) ∧
      (expected = none ∨ expected = some parts.flatten.length) ∧
      readFrom (t.put q.names (.file [])) stop 0 chunks = .ok parts ∧
      (t.put q.names (.file parts.flatten)).rename (partFor dest) dest = .ok R ∧
      merge t chunks dest expected stop = (chunks.foldl discard R, .ok parts.flatten.length)) := by
  unfold merge mergeOutcome concat
  simp only [hst.writeFile]
  dsimp only [bind, Except.bind]
  rw [copyFrom_eq hst.locate hst.slash hst.names_ne_nil hst.not_dir chunks hcs stop 0 [] 0]
  cases hread : readFrom (t.put q.names (.file [])) stop 0 chunks with
  | error e =>
    -- a signal at a chunk's check, or a chunk that cannot be read, ends the merge
    refine .inl ⟨e, t, .inl rfl, ?_, ?_⟩
    · simp
    · simp [Except.map]
  | ok parts =>
    have hchecks := (readFrom_eq_ok hread).1
    by_cases hmis : ∃ n, expected = some n ∧ parts.flatten.length ≠ n
    · -- the total length is not the one expected
      obtain ⟨n, rfl, hn⟩ := hmis
      refine .inl ⟨lengthMismatch parts.flatten.length n, t, .inl rfl, ?_, ?_⟩
      · simp [hn, -List.length_flatten, throw, throwThe, MonadExceptOf.throw]
      · simp [hn, -List.length_flatten, Except.map, throw, throwThe, MonadExceptOf.throw]
    have hexp : expected = none ∨ expected = some parts.flatten.length := by
      cases expected with
      | none => exact .inl rfl
      | some n =>
        have hn : parts.flatten.length = n :=
          Classical.byContradiction fun hn => hmis ⟨n, rfl, hn⟩
        exact .inr (by rw [hn])
    by_cases hlate : (stop chunks.length).isSome
    · -- a signal at the check before the rename
      refine .inl ⟨interrupted, t.put q.names (.file parts.flatten), .inr ⟨_, rfl⟩, ?_, ?_⟩
      · rcases hexp with rfl | rfl <;> simp [hlate, throw, throwThe, MonadExceptOf.throw]
      · rcases hexp with rfl | rfl <;> simp [hlate, Except.map, pure, Except.pure]
    have hnone : ∀ i, i ≤ chunks.length → stop i = none := by
      intro i hi
      rcases Nat.eq_or_lt_of_le hi with rfl | hlt
      · simpa using hlate
      · exact hchecks i (Nat.zero_le i) (by omega)
    cases hren : (t.put q.names (.file parts.flatten)).rename (partFor dest) dest with
    | error e =>
      -- the rename fails
      refine .inl ⟨e, t.put q.names (.file parts.flatten), .inr ⟨_, rfl⟩, ?_, ?_⟩
      · rcases hexp with rfl | rfl <;> simp [hlate, hren]
      · rcases hexp with rfl | rfl <;> simp [hlate, hren, Except.map, pure, Except.pure]
    | ok R =>
      refine .inr ⟨parts, R, ?_, hnone, hexp, rfl, hren, ?_⟩
      · rcases hexp with rfl | rfl <;> simp [hlate, hren, pure, Except.pure]
      · rcases hexp with rfl | rfl <;> simp [hlate, hren, Except.map, pure, Except.pure]

/-- A merge is all or nothing. In a well-formed tree, with no directory at the staging path and
no chunk path naming the destination's file or the staging file, a merge ends as
`mergeOutcome` says. When that is a success, the merge gives the sum of the chunk files'
lengths, no check found a signal and the length is the one expected; the destination holds the
chunk files' bytes in order, and neither the staging path nor any chunk path opens anything.
When it is a failure, the merge gives that failure, the destination and every chunk path open
as they did, and the staging path opens nothing. -/
theorem merge_all_or_nothing (t : FileTree) (chunks : List String) (dest : String)
    (expected : Option Nat) (stop : Nat → Option Signal) (hwf : t.WellFormed)
    (hpart : t.at? (partFor dest) ≠ some .dir)
    (hchunks : ∀ c ∈ chunks, ¬ t.SameFile c dest ∧ ¬ t.SameFile c (partFor dest)) :
    let r := merge t chunks dest expected stop
    match mergeOutcome t chunks dest expected stop with
    | .ok bytes =>
      r.2 = .ok bytes.length ∧ (∀ i, i ≤ chunks.length → stop i = none) ∧
        (expected = none ∨ expected = some bytes.length) ∧
        (∃ parts, List.Forall₂ (fun c b => t.at? c = some (.file b)) chunks parts ∧
          parts.flatten = bytes) ∧
        r.1.at? dest = some (.file bytes) ∧ r.1.at? (partFor dest) = none ∧
        ∀ c ∈ chunks, r.1.at? c = none
    | .error e =>
      r.2 = .error e ∧ r.1.at? dest = t.at? dest ∧ r.1.at? (partFor dest) = none ∧
        ∀ c ∈ chunks, r.1.at? c = t.at? c := by
  dsimp only
  cases hw : t.writable (partFor dest) with
  | error e =>
    -- no staging file can be created, and nothing changes
    obtain ⟨hnone, hdisc⟩ := discard_of_writable_error hwf hw hpart
    have ho : mergeOutcome t chunks dest expected stop = .error e := by
      unfold mergeOutcome
      rw [writeFile_eq, hw]
      rfl
    have hm : merge t chunks dest expected stop = (t, .error e) := by
      unfold merge concat
      simp only [writeFile_eq, hw]
      exact congrArg (·, Except.error e) hdisc
    rw [ho, hm]
    exact ⟨rfl, rfl, hnone, fun _ _ => rfl⟩
  | ok w =>
    obtain ⟨q, hst, -⟩ := staging_of_writable hwf hw
    have hcs : ∀ c ∈ chunks, ∀ p, t.locate c = .ok p → p.names ≠ q.names :=
      fun c hc p hp => names_ne_of_not_sameFile (hchunks c hc).2 hp hst.locate
    rcases merge_cases hst hcs expected stop with
      ⟨e, u, hu, ho, hm⟩ | ⟨parts, R, ho, hstop, hexp, hmap, hren, hm⟩
    · -- a failure discards the staging path and changes nothing else
      obtain ⟨hpartF, hsame⟩ := at?_discard_staged hwf hst hu
      rw [ho, hm]
      exact ⟨rfl, hsame dest fun p hp => names_partFor_ne hp hst.locate, hpartF,
        fun c hc => hsame c (hcs c hc)⟩
    · -- a success moves the staged bytes onto the destination and removes the chunk files
      obtain ⟨hdest, hpartS, hchunksS⟩ := at?_merged hwf hst (fun c hc => (hchunks c hc).1) hren
      -- every chunk was read from the staged tree, where it opens as in `t`
      have hfiles : List.Forall₂ (fun c b => t.at? c = some (.file b)) chunks parts := by
        refine ((List.forall₂_and_left _ _).2 ⟨fun c hc => hc, (readFrom_eq_ok hmap).2⟩).imp
          fun c b ⟨hc, hb⟩ => ?_
        rw [← at?_of_readChunk hb]
        refine (hst.sameDirs_put []).symm.at?_congr fun p hp => ?_
        rw [get?_put t hst.names_ne_nil, if_neg (hcs c hc p hp)]
      rw [ho, hm]
      refine ⟨rfl, hstop, hexp, ⟨parts, hfiles, rfl⟩, hdest, hpartS, fun c hc => hchunksS c hc ?_⟩
      obtain ⟨b, hb⟩ := exists_of_forall₂_of_mem hfiles hc
      rw [hb]
      simp

/-- Two chunk files in the root merge into `out.bin`, with the length expected: the destination
then holds their bytes in order. -/
theorem merge_all_or_nothing_two_chunks :
    let t : FileTree := ⟨[(["c0"], .file [1, 2]), (["c1"], .file [3])]⟩
    t.WellFormed ∧ t.at? (partFor "out.bin") ≠ some .dir ∧
      (∀ c ∈ ["c0", "c1"], ¬ t.SameFile c "out.bin" ∧ ¬ t.SameFile c (partFor "out.bin")) ∧
      mergeOutcome t ["c0", "c1"] "out.bin" (some 3) (fun _ => none) = .ok [1, 2, 3] ∧
      (merge t ["c0", "c1"] "out.bin" (some 3) (fun _ => none)).1.at? "out.bin" =
        some (.file [1, 2, 3]) := by
  intro t
  have hwf : t.WellFormed := wellFormed_of_entries (by decide)
  have ho : mergeOutcome t ["c0", "c1"] "out.bin" (some 3) (fun _ => none) = .ok [1, 2, 3] := by
    rfl
  have h := merge_all_or_nothing t ["c0", "c1"] "out.bin" (some 3) (fun _ => none) hwf (by decide)
    (by decide)
  rw [ho] at h
  exact ⟨hwf, by decide, by decide, ho, h.2.2.2.2.1⟩

/-- A chunk path that opens to a directory fails the merge with `IsADirectory` alone: unlike a
chunk that cannot be opened, its error does not name the path. -/
theorem merge_directory_chunk :
    (merge ⟨[(["chunk_0"], .dir)]⟩ ["chunk_0"] "out.bin" none (fun _ => none)).2 =
        .error IoError.isADirectory ∧
      ∀ e : IoError, IoError.isADirectory ≠ e.atPath "chunk_0" := by
  refine ⟨by rfl, fun e h => ?_⟩
  -- the texts differ in their first character
  have h₁ := congrArg (fun x : IoError => x.text.toList.head?) h
  simp [IoError.isADirectory, IoError.os, IoError.atPath] at h₁

end Merge

end DownloadEngine.Chunk
