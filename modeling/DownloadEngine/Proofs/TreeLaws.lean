import DownloadEngine.FileTree
import Mathlib.Data.List.Find
import Mathlib.Data.List.Induction

/-!
# Laws of file trees

What stands at a path is read by `get?`; the operations change it at one place or below one
place. A tree is well formed when every entry's parent is a directory, as on a real disk: then
every prefix of a directory is a directory, and nothing lies below a file. A walk enters only
directories, so in a well-formed tree it always stands on one. Walks read nothing but which
places are directories, so two trees with the same directories walk every path alike, and a
path opens alike in both wherever its place holds the same entry.

## Main statements

* `get?_put`, `get?_erase`, `put_put`: lookups after the basic updates.
* `WellFormed.dir_of_prefix`: in a well-formed tree every prefix of an entry is a directory.
* `WellFormed.locate_dir`: a walk stands on a directory.
* `locate_of_pieces`, `names_of_walk`: a path walks its pieces but the last, and a path whose
  pieces all lead on names the place they lead to.
* `SameDirs.locate_toOption`, `SameDirs.at?_congr`: trees with the same directories walk
  every path alike, and open alike where the same entries stand.
* `writable_eq_ok`, `removeFile_eq_ok`, `rename_file_eq_ok`: what a successful write, removal
  or rename of a file did.
* `WellFormed.get?_move_file`: renaming a file moves it and nothing else.
* `openRead_put_file`: rewriting a file's bytes changes nothing a path opens elsewhere.
-/

namespace DownloadEngine.FileTree

/-! ## Lookups -/

@[simp] theorem get?_nil (t : FileTree) : t.get? [] = some .dir := by simp [get?]

/-- Only a place below the root holds a file. -/
theorem names_ne_nil_of_file {t : FileTree} {ns : List String} {b : List UInt8}
    (hg : t.get? ns = some (.file b)) : ns ≠ [] := by
  rintro rfl
  rw [get?_nil] at hg
  cases hg

theorem get?_of_ne_nil (t : FileTree) {q : List String} (hq : q ≠ []) :
    t.get? q = (t.entries.find? (·.1 == q)).map (·.2) := by
  simp [get?, hq]

/-- Every name an entry stands at can be looked up. -/
theorem get?_ne_none_of_mem {t : FileTree} {x : List String × Entry} (hx : x ∈ t.entries)
    (hne : x.1 ≠ []) : t.get? x.1 ≠ none := by
  rw [get?_of_ne_nil t hne, Ne, Option.map_eq_none_iff, List.find?_eq_none]
  exact fun h => h x hx (by simp)

theorem get?_put (t : FileTree) {ns : List String} (hns : ns ≠ []) (e : Entry) (q : List String) :
    (t.put ns e).get? q = if q = ns then some e else t.get? q := by
  by_cases hq : q = []
  · subst hq
    simp [Ne.symm hns]
  rw [get?_of_ne_nil _ hq, get?_of_ne_nil _ hq]
  unfold put
  split
  · -- the name is there: every entry at it is rewritten in place, the others are kept
    next hany =>
    rw [List.find?_map]
    have hkey : ((·.1 == q) ∘ fun (x : List String × Entry) =>
        if x.1 == ns then (x.1, e) else (x.1, x.2)) = (·.1 == q) := by
      funext x
      simp only [Function.comp_apply]
      split <;> rfl
    rw [hkey]
    cases hfind : t.entries.find? (·.1 == q) with
    | none =>
      -- nothing at `q`, so `q` is not the name that is there
      have hq' : q ≠ ns := by
        rintro rfl
        obtain ⟨x, hx, hxk⟩ := List.any_eq_true.mp hany
        exact (List.find?_eq_none.mp hfind) x hx hxk
      simp [hq']
    | some x =>
      have hxq : x.1 = q := by simpa using List.find?_some hfind
      by_cases hqn : q = ns
      · simp [hqn, hxq]
      · simp [hqn, hxq]
  · -- the name is new: it is appended after every other entry
    next hany =>
    rw [List.find?_append]
    by_cases hqn : q = ns
    · subst hqn
      have hnone : t.entries.find? (·.1 == q) = none := by
        rw [List.find?_eq_none]
        intro x hx hxk
        exact hany (List.any_eq_true.mpr ⟨x, hx, hxk⟩)
      simp [hnone]
    · simp [hqn, Ne.symm hqn]

theorem get?_erase (t : FileTree) (ns : List String) {q : List String} (hq : q ≠ []) :
    (t.erase ns).get? q = if ns <+: q then none else t.get? q := by
  rw [get?_of_ne_nil _ hq, get?_of_ne_nil _ hq]
  simp only [erase, List.find?_filter]
  split
  · -- every entry at `q` lies below `ns`
    next hpre =>
    rw [Option.map_eq_none_iff, List.find?_eq_none]
    rintro ⟨p, e⟩ _ hx
    have hx' : ns.isPrefixOf p = false ∧ p = q := by simpa using hx
    rw [hx'.2, List.isPrefixOf_iff_prefix.mpr hpre] at hx'
    exact Bool.false_ne_true hx'.1.symm
  · next hpre =>
    have hnot : ns.isPrefixOf q = false :=
      Bool.eq_false_iff.mpr fun h => hpre (List.isPrefixOf_iff_prefix.mp h)
    congr 1
    congr 1
    funext x
    by_cases hxq : x.1 = q
    · simp [hxq, hnot]
    · simp [hxq]

/-- After a put the name stands among the entries. -/
theorem any_put (t : FileTree) (ns : List String) (e : Entry) :
    (t.put ns e).entries.any (·.1 == ns) = true := by
  unfold put
  split
  · next hany =>
    obtain ⟨x, hx, hxk⟩ := List.any_eq_true.mp hany
    refine List.any_eq_true.mpr ⟨_, List.mem_map_of_mem hx, ?_⟩
    simp only
    split <;> exact hxk
  · simp

/-- Writing a place twice is writing it once, with the second value. -/
theorem put_put (t : FileTree) (ns : List String) (a b : Entry) :
    (t.put ns a).put ns b = t.put ns b := by
  -- the second put finds the name the first one wrote
  rw [put, if_pos (any_put t ns a)]
  unfold put
  by_cases hany : t.entries.any (·.1 == ns) = true
  · -- rewritten in place twice
    simp only [hany, if_true, List.map_map]
    congr 1
    apply List.map_congr_left
    intro x _
    simp only [Function.comp_apply]
    split <;> simp_all
  · -- appended once, then rewritten in place
    rw [if_neg hany, if_neg hany]
    simp only [List.map_append, List.map_cons, List.map_nil, beq_self_eq_true, if_true]
    congr 1
    congr 1
    refine (List.map_congr_left (g := id) fun x hx => ?_).trans (List.map_id _)
    have hne : (x.1 == ns) = false := by
      rw [Bool.eq_false_iff]
      intro hxk
      exact hany (List.any_eq_true.mpr ⟨x, hx, hxk⟩)
    simp [hne]

/-! ## Well-formed trees -/

/-- A tree is well formed when the parent of every entry is a directory. -/
def WellFormed (t : FileTree) : Prop := ∀ q n, t.get? (q ++ [n]) ≠ none → t.get? q = some .dir

/-- A tree is well formed when the parent of every entry it lists is a directory; for a given
tree this is a finite check. -/
theorem wellFormed_of_entries {t : FileTree}
    (h : ∀ x ∈ t.entries, t.get? x.1.dropLast = some .dir) : t.WellFormed := by
  intro q n hq
  have hne : q ++ [n] ≠ [] := by simp
  rw [get?_of_ne_nil t hne, Ne, Option.map_eq_none_iff] at hq
  obtain ⟨x, hfind⟩ := Option.ne_none_iff_exists'.mp hq
  have hx : x.1 = q ++ [n] := by simpa using List.find?_some hfind
  have hpar := h x (List.mem_of_find?_eq_some hfind)
  rwa [hx, List.dropLast_concat] at hpar

/-- In a well-formed tree every proper prefix of an entry's names is a directory. -/
theorem WellFormed.dir_of_prefix {t : FileTree} (h : t.WellFormed) {p q : List String}
    (hp : t.get? p ≠ none) (hq : q <+: p) (hne : q ≠ p) : t.get? q = some .dir := by
  induction p using List.reverseRecOn with
  | nil => exact absurd (List.prefix_nil.mp hq) hne
  | append_singleton p n ih =>
    have hparent := h p n hp
    rcases List.prefix_concat_iff.mp hq with rfl | hq'
    · exact absurd rfl hne
    · by_cases hqp : q = p
      · rw [hqp]; exact hparent
      · exact ih (by rw [hparent]; simp) hq' hqp

/-- In a well-formed tree every prefix of a directory is a directory. -/
theorem WellFormed.dir_of_prefix_dir {t : FileTree} (h : t.WellFormed) {d q : List String}
    (hd : t.get? d = some .dir) (hq : q <+: d) : t.get? q = some .dir := by
  by_cases hqd : q = d
  · rw [hqd]; exact hd
  · exact h.dir_of_prefix (by rw [hd]; simp) hq hqd

/-- In a well-formed tree nothing lies below a place that is not a directory. -/
theorem WellFormed.eq_of_prefix {t : FileTree} (h : t.WellFormed) {ns : List String}
    (hns : t.get? ns ≠ some .dir) {x : List String × Entry} (hx : x ∈ t.entries) (hpre : ns <+: x.1) :
    x.1 = ns := by
  by_cases hne : x.1 = ns
  · exact hne
  · have hx1 : x.1 ≠ [] := by
      rintro hnil
      rw [hnil, List.prefix_nil] at hpre
      exact hne (hpre ▸ hnil)
    exact absurd (h.dir_of_prefix (get?_ne_none_of_mem hx hx1) hpre (Ne.symm hne)) hns

/-- In a well-formed tree nothing stands strictly below a place that is not a directory. -/
theorem WellFormed.get?_eq_none_of_prefix {t : FileTree} (h : t.WellFormed) {ns q : List String}
    (hns : t.get? ns ≠ some .dir) (hpre : ns <+: q) (hne : ns ≠ q) : t.get? q = none := by
  by_cases hq : t.get? q = none
  · exact hq
  · exact absurd (h.dir_of_prefix hq hpre hne) hns

/-! ## Walks -/

theorem toOption_bind {ε α β : Type} (x : Except ε α) (f : α → Except ε β) :
    (x >>= f).toOption = x.toOption.bind fun a => (f a).toOption := by
  cases x <;> rfl

theorem toOption_eq_some_iff {ε α : Type} {x : Except ε α} {a : α} :
    x.toOption = some a ↔ x = .ok a := by
  cases x <;> simp [Except.toOption]

/-- Two trees have the same directories. -/
def SameDirs (t u : FileTree) : Prop := ∀ ns, t.get? ns = some .dir ↔ u.get? ns = some .dir

theorem SameDirs.symm {t u : FileTree} (h : SameDirs t u) : SameDirs u t :=
  fun ns => (h ns).symm

theorem SameDirs.trans {t u v : FileTree} (h : SameDirs t u) (h' : SameDirs u v) : SameDirs t v :=
  fun ns => (h ns).trans (h' ns)

section Walk

variable {t u : FileTree}

/-- A step succeeds in the same way wherever the same directories stand. -/
theorem SameDirs.step_toOption (h : SameDirs t u) (d : List String) (x : String) :
    (t.step d x).toOption = (u.step d x).toOption := by
  unfold step
  split
  · rfl
  split
  · rfl
  -- a name: both trees are asked only whether a directory stands there
  have hd := h (d ++ [x])
  rcases ht : t.get? (d ++ [x]) with _ | _ | _ <;> rcases hu : u.get? (d ++ [x]) with _ | _ | _ <;>
    simp_all [Except.toOption]

theorem SameDirs.foldlM_step (h : SameDirs t u) (l : List String) (d : List String) :
    (l.foldlM t.step d).toOption = (l.foldlM u.step d).toOption := by
  induction l generalizing d with
  | nil => rfl
  | cons x l ih =>
    simp only [List.foldlM_cons]
    rw [toOption_bind, toOption_bind, h.step_toOption]
    congr 1
    funext d'
    exact ih d'

/-- Trees with the same directories walk every path alike. -/
theorem SameDirs.locate_toOption (h : SameDirs t u) (path : String) :
    (t.locate path).toOption = (u.locate path).toOption := by
  unfold locate
  split
  · rfl
  · rw [toOption_bind, toOption_bind, h.foldlM_step]

theorem SameDirs.locate_eq_ok (h : SameDirs t u) {path : String} {p : Place}
    (hp : t.locate path = .ok p) : u.locate path = .ok p := by
  rw [← toOption_eq_some_iff, ← h.locate_toOption, toOption_eq_some_iff]
  exact hp

/-- A step from a directory reaches a directory: `..` goes to a prefix, and a name must be one. -/
theorem WellFormed.step_dir (h : t.WellFormed) {d d' : List String} {x : String}
    (hd : t.get? d = some .dir) (hs : t.step d x = .ok d') : t.get? d' = some .dir := by
  unfold step at hs
  split at hs
  · cases hs
    exact hd
  split at hs
  · cases hs
    exact h.dir_of_prefix_dir hd (List.dropLast_prefix d)
  split at hs
  · next hx =>
    cases hs
    exact hx
  all_goals cases hs

theorem WellFormed.foldlM_step_dir (h : t.WellFormed) (l : List String) {d d' : List String}
    (hd : t.get? d = some .dir) (hl : l.foldlM t.step d = .ok d') : t.get? d' = some .dir := by
  induction l generalizing d with
  | nil =>
    cases hl
    exact hd
  | cons x l ih =>
    rw [List.foldlM_cons] at hl
    cases hs : t.step d x with
    | error e =>
      rw [hs] at hl
      cases hl
    | ok d₁ =>
      rw [hs] at hl
      exact ih (h.step_dir hd hs) hl

/-- In a well-formed tree a walk stands on a directory. -/
theorem WellFormed.locate_dir (h : t.WellFormed) {path : String} {p : Place}
    (hp : t.locate path = .ok p) : t.get? p.dir = some .dir := by
  unfold locate at hp
  split at hp
  · cases hp
    exact get?_nil t
  · cases hl : List.foldlM t.step [] _ with
    | error e =>
      rw [hl] at hp
      cases hp
    | ok d =>
      rw [hl] at hp
      cases hp
      exact h.foldlM_step_dir _ (get?_nil t) hl

/-- A path that ends in `.` or `..` names a directory. -/
theorem WellFormed.names_dir_of_not_name (h : t.WellFormed) {path : String} {p : Place}
    (hp : t.locate path = .ok p) (htail : ∀ n, p.tail ≠ .name n) : t.get? p.names = some .dir := by
  have hdir := h.locate_dir hp
  unfold Place.names
  split
  · exact hdir
  · exact h.dir_of_prefix_dir hdir (List.dropLast_prefix _)
  · next n hn => exact absurd hn (htail n)

end Walk

/-! ## Pieces and places -/

/-- How a last piece ends a path. -/
def Tail.ofPiece (x : String) : Tail :=
  if x = "." then .here else if x = ".." then .up else .name x

/-- A path walks its pieces but the last, which tells how it ends. -/
theorem locate_of_pieces {t : FileTree} {path : String} {before : List String} {last : String}
    (h : pieces path = before ++ [last]) :
    t.locate path = (before.foldlM t.step []).map fun d =>
      ⟨d, .ofPiece last, path.toList.getLast? == some '/'⟩ := by
  unfold locate
  rw [h, List.reverse_append, List.reverse_singleton, List.singleton_append]
  dsimp only
  rw [List.reverse_reverse]
  cases before.foldlM t.step [] <;> rfl

/-- The place a last piece names, from the directory before it, is where one more step leads. -/
theorem names_of_step {t : FileTree} {d d' : List String} {x : String} (slash : Bool)
    (hs : t.step d x = .ok d') : (⟨d, .ofPiece x, slash⟩ : Place).names = d' := by
  unfold step at hs
  by_cases hdot : x = "."
  · rw [if_pos hdot] at hs
    cases hs
    simp [Place.names, Tail.ofPiece, hdot]
  · by_cases hup : x = ".."
    · rw [if_neg hdot, if_pos hup] at hs
      cases hs
      simp [Place.names, Tail.ofPiece, hup]
    · rw [if_neg hdot, if_neg hup] at hs
      split at hs
      · cases hs
        simp [Place.names, Tail.ofPiece, hdot, hup]
      all_goals cases hs

/-- A path whose pieces all lead on from the root names the place they lead to. -/
theorem names_of_walk {t : FileTree} {path : String} {v d : List String} {p : Place}
    (hv : v.foldlM t.step [] = .ok d) (hpath : pieces path = v) (hp : t.locate path = .ok p) :
    p.names = d := by
  rcases List.eq_nil_or_concat v with rfl | ⟨v', x, rfl⟩
  · -- no pieces: the root
    cases hv
    unfold locate at hp
    rw [hpath] at hp
    cases hp
    rfl
  · -- the last piece is one more step from the place the others lead to
    rw [List.concat_eq_append] at hpath hv
    rw [List.foldlM_append] at hv
    rw [locate_of_pieces hpath] at hp
    cases hv' : v'.foldlM t.step [] with
    | error e =>
      rw [hv'] at hv
      cases hv
    | ok d' =>
      rw [hv'] at hv hp
      cases hp
      have hs : t.step d' x = .ok d := by
        have hx : (t.step d' x >>= pure) = .ok d := hv
        rwa [bind_pure] at hx
      exact names_of_step _ hs

/-- From one directory, a last piece other than the name `m` never names `m`. -/
theorem names_ne_of_piece_ne {d : List String} {x m : String} (hxm : x ≠ m) (slash : Bool) :
    (⟨d, .ofPiece x, slash⟩ : Place).names ≠ d ++ [m] := by
  by_cases hdot : x = "."
  · simp [Place.names, Tail.ofPiece, hdot]
  · by_cases hup : x = ".."
    · simp only [Place.names, Tail.ofPiece, if_neg hdot, if_pos hup]
      intro h
      have := congrArg List.length h
      simp only [List.length_dropLast, List.length_append, List.length_singleton] at this
      omega
    · simp only [Place.names, Tail.ofPiece, if_neg hdot, if_neg hup]
      intro h
      exact hxm (List.singleton_inj.mp (List.append_cancel_left h))

/-! ## What a path opens to -/

/-- What a walked place opens to for reading: a slash after a file's name opens nothing. -/
def readAt (t : FileTree) (p : Place) : Option Entry :=
  match t.get? p.names with
  | some (.file bytes) => if p.slash then none else some (.file bytes)
  | e => e

/-- A path opens to what its place reads. -/
theorem at?_eq_bind (t : FileTree) (path : String) :
    t.at? path = (t.locate path).toOption.bind t.readAt := by
  unfold at? openRead
  rw [toOption_bind]
  congr 1
  funext p
  unfold readAt
  cases t.get? p.names with
  | none => rfl
  | some e =>
    cases e with
    | file bytes => cases p.slash <;> rfl
    | dir => rfl

section Reading

variable {t u : FileTree} {path : String}

theorem at?_eq_readAt (hp : t.locate path = .ok p) : t.at? path = t.readAt p := by
  rw [at?_eq_bind, hp]
  rfl

theorem at?_eq_none_of_locate (hp : ∀ p, t.locate path ≠ .ok p) : t.at? path = none := by
  rw [at?_eq_bind]
  cases hl : t.locate path with
  | error e => rfl
  | ok p => exact absurd hl (hp p)

/-- With the same directories, a path opens alike where its place holds the same entry. -/
theorem SameDirs.at?_congr (h : SameDirs t u)
    (hg : ∀ p, t.locate path = .ok p → t.get? p.names = u.get? p.names) :
    t.at? path = u.at? path := by
  cases hl : t.locate path with
  | error e =>
    have hu : ∀ p, u.locate path ≠ .ok p := fun p hp => by
      have := h.symm.locate_eq_ok hp
      rw [hl] at this
      cases this
    rw [at?_eq_none_of_locate (fun p hp => by rw [hl] at hp; cases hp), at?_eq_none_of_locate hu]
  | ok p =>
    rw [at?_eq_readAt hl, at?_eq_readAt (h.locate_eq_ok hl)]
    unfold readAt
    rw [hg p hl]

/-- A file that is opened stands at the place the path walks to, with no slash after it. -/
theorem at?_eq_some_file (h : t.at? path = some (.file b)) :
    ∃ p, t.locate path = .ok p ∧ t.get? p.names = some (.file b) ∧ p.slash = false := by
  rw [at?_eq_bind] at h
  cases hl : t.locate path with
  | error e =>
    rw [hl] at h
    cases h
  | ok p =>
    rw [hl] at h
    refine ⟨p, rfl, ?_⟩
    change t.readAt p = _ at h
    unfold readAt at h
    cases hg : t.get? p.names with
    | none => simp [hg] at h
    | some e =>
      cases e with
      | file bytes => cases hs : p.slash <;> simp_all
      | dir => simp [hg] at h

end Reading

/-! ## Files -/

section Files

variable {t : FileTree} {ns : List String}

/-- Putting a file where no directory stands keeps the directories. -/
theorem sameDirs_put_file (hns : t.get? ns ≠ some .dir) (hne : ns ≠ []) (b : List UInt8) :
    SameDirs (t.put ns (.file b)) t := by
  intro q
  rw [get?_put t hne]
  split
  · next hq =>
    subst hq
    simp [hns]
  · rfl

/-- Putting a file in a directory, where no directory stands, keeps a tree well formed. -/
theorem WellFormed.put_file (h : t.WellFormed) {d : List String} {n : String}
    (hd : t.get? d = some .dir) (hns : t.get? (d ++ [n]) ≠ some .dir) (b : List UInt8) :
    (t.put (d ++ [n]) (.file b)).WellFormed := by
  intro q m hq
  have hne : d ++ [n] ≠ [] := by simp
  rw [get?_put t hne] at hq ⊢
  by_cases hqm : q ++ [m] = d ++ [n]
  · -- the new file itself, whose parent is `d`
    have hq' : q = d := List.append_inj_left' hqm rfl
    have hqn : q ≠ d ++ [n] := by
      rw [hq']
      simp
    rw [if_neg hqn, hq']
    exact hd
  · rw [if_neg hqm] at hq
    have hpar := h q m hq
    have hqn : q ≠ d ++ [n] := by
      rintro rfl
      exact hns hpar
    rw [if_neg hqn]
    exact hpar

/-- Erasing a place where no directory stands removes only what stands there. -/
theorem WellFormed.get?_erase_of_not_dir (h : t.WellFormed) (hns : t.get? ns ≠ some .dir)
    (hne : ns ≠ []) (q : List String) :
    (t.erase ns).get? q = if q = ns then none else t.get? q := by
  by_cases hq : q = []
  · subst hq
    simp [Ne.symm hne]
  rw [get?_erase t ns hq]
  by_cases hqn : q = ns
  · subst hqn
    simp
  · rw [if_neg hqn]
    split
    · next hpre => exact (h.get?_eq_none_of_prefix hns hpre (Ne.symm hqn)).symm
    · rfl

theorem WellFormed.sameDirs_erase (h : t.WellFormed) (hns : t.get? ns ≠ some .dir)
    (hne : ns ≠ []) : SameDirs (t.erase ns) t := by
  intro q
  rw [h.get?_erase_of_not_dir hns hne]
  split
  · next hq =>
    subst hq
    simp [hns]
  · rfl

theorem WellFormed.erase (h : t.WellFormed) (hns : t.get? ns ≠ some .dir) (hne : ns ≠ []) :
    (t.erase ns).WellFormed := by
  intro q m hq
  rw [h.get?_erase_of_not_dir hns hne] at hq ⊢
  split at hq
  · exact absurd rfl hq
  · have hpar := h q m hq
    have hqn : q ≠ ns := by
      rintro rfl
      exact hns hpar
    rw [if_neg hqn]
    exact hpar

/-- A walk that reaches a file ends in a name. -/
theorem WellFormed.tail_of_file (h : t.WellFormed) {path : String} {p : Place}
    (hp : t.locate path = .ok p) (hf : t.get? p.names = some (.file b)) :
    ∃ n, p.tail = .name n := by
  cases ht : p.tail with
  | name n => exact ⟨n, rfl⟩
  | here | up =>
    have := h.names_dir_of_not_name hp (fun n => by rw [ht]; simp)
    rw [hf] at this
    cases this

end Files

/-! ## File operations -/

section Operations

variable {t : FileTree} {path : String}

theorem writeFile_eq (t : FileTree) (path : String) (b : List UInt8) :
    t.writeFile path b = (t.writable path).map fun w => t.put w.1 (.file b) := by
  unfold writeFile
  cases t.writable path <;> rfl

/-- Where a file can be written the walk ends in a name, with no slash after it and no
directory there. -/
theorem writable_eq_ok {w : List String × Option (List UInt8)} (hw : t.writable path = .ok w) :
    ∃ p n, t.locate path = .ok p ∧ p.tail = .name n ∧ p.names = w.1 ∧ p.slash = false ∧
      t.get? w.1 ≠ some .dir := by
  unfold writable at hw
  cases hl : t.locate path with
  | error e =>
    rw [hl] at hw
    cases hw
  | ok p =>
    rw [hl] at hw
    dsimp only [bind, Except.bind] at hw
    split at hw
    · next n hn =>
      refine ⟨p, n, rfl, hn, ?_⟩
      split at hw
      · cases hw
      · next bytes hg =>
        split at hw
        · cases hw
        · next hs =>
          cases hw
          exact ⟨rfl, by simpa using hs, by simp [hg]⟩
      · next hg =>
        split at hw
        · cases hw
        · next hs =>
          cases hw
          exact ⟨rfl, by simpa using hs, by simp [hg]⟩
    · cases hw

/-- A file that exists can be written over. -/
theorem WellFormed.writable_of_file (h : t.WellFormed) {p : Place} {b : List UInt8}
    (hp : t.locate path = .ok p) (hg : t.get? p.names = some (.file b)) (hs : p.slash = false) :
    t.writable path = .ok (p.names, some b) := by
  obtain ⟨n, hn⟩ := h.tail_of_file hp hg
  unfold writable
  rw [hp]
  dsimp only [bind, Except.bind]
  rw [hn]
  dsimp only
  rw [hg]
  simp only [hs, Bool.false_eq_true, if_false]
  rfl

/-- A file that is removed stood at the place its path walks to, with no slash after it. -/
theorem removeFile_eq_ok {u : FileTree} (hr : t.removeFile path = .ok u) :
    ∃ p b, t.locate path = .ok p ∧ t.get? p.names = some (.file b) ∧ p.slash = false ∧
      u = t.erase p.names := by
  unfold removeFile at hr
  cases hl : t.locate path with
  | error e =>
    rw [hl] at hr
    cases hr
  | ok p =>
    rw [hl] at hr
    dsimp only [bind, Except.bind] at hr
    split at hr
    · split at hr
      · cases hr
      · cases hr
      · next b hg =>
        split at hr
        · cases hr
        · next hs =>
          cases hr
          exact ⟨p, b, rfl, hg, by simpa using hs, rfl⟩
    · cases hr

/-- A file that exists can be removed. -/
theorem WellFormed.removeFile_of_file (h : t.WellFormed) {p : Place} {b : List UInt8}
    (hp : t.locate path = .ok p) (hg : t.get? p.names = some (.file b)) (hs : p.slash = false) :
    t.removeFile path = .ok (t.erase p.names) := by
  obtain ⟨n, hn⟩ := h.tail_of_file hp hg
  unfold removeFile
  rw [hp]
  dsimp only [bind, Except.bind]
  rw [hn]
  dsimp only
  rw [hg]
  simp only [hs, Bool.false_eq_true, if_false]
  rfl

/-- Appending to a file that exists writes its old bytes followed by the new ones. -/
theorem appendFile_of_file {p : Place} {b : List UInt8} (hp : t.locate path = .ok p)
    (hg : t.get? p.names = some (.file b)) (hs : p.slash = false) (bs : List UInt8) :
    t.appendFile path bs = .ok (t.put p.names (.file (b ++ bs))) := by
  unfold appendFile existingFile
  rw [hp]
  dsimp only [bind, Except.bind]
  rw [hg]
  simp only [hs, Bool.false_eq_true, if_false]
  rfl

/-- Renaming a file onto another place: the destination walks to a name with no slash after
it and no directory there, and the tree is the file carried there, over what stood there. -/
theorem rename_file_eq_ok {src dst : String} {p : Place} {b : List UInt8} {u : FileTree}
    (hsrc : t.locate src = .ok p) (hf : t.get? p.names = some (.file b))
    (hne : ∀ g, t.locate dst = .ok g → p.names ≠ g.names) (hr : t.rename src dst = .ok u) :
    ∃ g n, t.locate dst = .ok g ∧ g.tail = .name n ∧ g.slash = false ∧
      t.get? g.names ≠ some .dir ∧
      u = ⟨((t.erase g.names).erase p.names).entries ++ t.entries.filterMap fun x =>
        if p.names.isPrefixOf x.1 then some (g.names ++ x.1.drop p.names.length, x.2) else none⟩ := by
  unfold rename at hr
  rw [hsrc] at hr
  dsimp only [bind, Except.bind] at hr
  cases hg : t.locate dst with
  | error e =>
    rw [hg] at hr
    cases hr
  | ok g =>
    rw [hg] at hr
    dsimp only at hr
    -- both paths end in names
    split at hr
    case h_2 => cases hr
    split at hr
    case h_2 => cases hr
    next n hn =>
    rw [hf] at hr
    dsimp only at hr
    -- a slash after either name needs a directory
    by_cases hslash : (Entry.file b != Entry.dir) = true ∧ (p.slash = true ∨ g.slash = true)
    · rw [if_pos hslash] at hr
      cases hr
    rw [if_neg hslash] at hr
    have hgs : g.slash = false := by
      cases hs : g.slash with
      | false => rfl
      | true => exact absurd ⟨by simp, .inr hs⟩ hslash
    rw [if_neg (hne g hg)] at hr
    -- neither name lies below the other, and a file does not replace a directory
    split at hr
    · cases hr
    split at hr
    · cases hr
    split at hr
    · cases hr
    case h_2 _ _ _ hfd _ => cases hfd
    case h_3 _ _ hfd _ => cases hfd
    case h_4 _ _ hnd _ _ =>
      cases hr
      exact ⟨g, n, rfl, hn, hgs, fun hd => hnd b rfl hd, rfl⟩

end Operations

/-! ## Moving a file -/

section Move

variable {t : FileTree} {src dst : List String} {b : List UInt8}

/-- A lookup in two lists of entries reads the first list first. -/
theorem get?_append_entries (a c : List (List String × Entry)) (x : List String) :
    (⟨a ++ c⟩ : FileTree).get? x = ((⟨a⟩ : FileTree).get? x).or ((⟨c⟩ : FileTree).get? x) := by
  by_cases hx : x = []
  · subst hx
    simp
  · simp only [get?_of_ne_nil _ hx, List.find?_append, Option.map_or]

/-- Carrying what lies at and below a file to `dst` carries the file alone. -/
theorem WellFormed.get?_carried (h : t.WellFormed) (hf : t.get? src = some (.file b))
    {x : List String} (hx : x ≠ []) :
    (⟨t.entries.filterMap fun y =>
        if src.isPrefixOf y.1 then some (dst ++ y.1.drop src.length, y.2) else none⟩ :
      FileTree).get? x = if x = dst then some (.file b) else none := by
  have hsrc : src ≠ [] := by
    rintro rfl
    simp at hf
  have hnd : t.get? src ≠ some .dir := by simp [hf]
  rw [get?_of_ne_nil _ hx, List.find?_filterMap]
  -- only the entry at `src` lies below it, so the search is for that entry
  have hpred : ∀ y ∈ t.entries,
      ((if src.isPrefixOf y.1 then some (dst ++ y.1.drop src.length, y.2) else none).any
        (·.1 == x)) = ((y.1 == src) && (dst == x)) := by
    intro y hy
    by_cases hpre : src <+: y.1
    · have hys : y.1 = src := h.eq_of_prefix hnd hy hpre
      simp [hys]
    · have hys : y.1 ≠ src := fun hys => hpre (hys ▸ List.prefix_refl _)
      have hnot : src.isPrefixOf y.1 = false :=
        Bool.eq_false_iff.mpr fun hp => hpre (List.isPrefixOf_iff_prefix.mp hp)
      simp [hnot, hys]
  rw [List.find?_congr hpred]
  by_cases hxd : x = dst
  · subst hxd
    obtain ⟨y, hfind, hy⟩ : ∃ y, t.entries.find? (·.1 == src) = some y ∧ y.2 = .file b := by
      rw [get?_of_ne_nil _ hsrc, Option.map_eq_some_iff] at hf
      exact hf
    have hys : y.1 = src := by simpa using List.find?_some hfind
    simp [hfind, hys, hy]
  · have hnone : t.entries.find? (fun y => (y.1 == src) && (dst == x)) = none := by
      simp [Ne.symm hxd]
    simp [hnone, hxd]

/-- Moving a file in a well-formed tree onto a place where no directory stands: the file stands
there, nothing stands where it was, and all else is unchanged. -/
theorem WellFormed.get?_move_file (h : t.WellFormed) (hf : t.get? src = some (.file b))
    (hdst : t.get? dst ≠ some .dir) (hsd : src ≠ dst) (hdne : dst ≠ []) (x : List String) :
    (⟨((t.erase dst).erase src).entries ++ t.entries.filterMap fun y =>
        if src.isPrefixOf y.1 then some (dst ++ y.1.drop src.length, y.2) else none⟩ :
      FileTree).get? x = if x = dst then some (.file b) else if x = src then none else t.get? x := by
  have hsne : src ≠ [] := by
    rintro rfl
    simp at hf
  have hsrc : (t.erase dst).get? src ≠ some .dir := by
    rw [h.get?_erase_of_not_dir hdst hdne, if_neg hsd, hf]
    simp
  have hkept : ∀ x, ((t.erase dst).erase src).get? x =
      if x = src then none else if x = dst then none else t.get? x := by
    intro x
    rw [(h.erase hdst hdne).get?_erase_of_not_dir hsrc hsne, h.get?_erase_of_not_dir hdst hdne]
  rw [get?_append_entries]
  change (((t.erase dst).erase src).get? x).or _ = _
  by_cases hx : x = []
  · subst hx
    simp [Ne.symm hdne, Ne.symm hsne]
  rw [hkept, h.get?_carried hf hx]
  by_cases hxd : x = dst
  · simp [hxd, Ne.symm hsd]
  · by_cases hxs : x = src
    · simp [hxs, hsd]
    · simp [hxd, hxs, Option.or_none]

/-- A tree that reads as `t` with a file moved from `src` to `dst` has the directories of `t`. -/
theorem sameDirs_of_move {u : FileTree}
    (hu : ∀ x, u.get? x = if x = dst then some (.file b) else if x = src then none else t.get? x)
    (hsrc : t.get? src ≠ some .dir) (hdst : t.get? dst ≠ some .dir) : SameDirs u t := by
  intro x
  rw [hu]
  by_cases hxd : x = dst
  · subst hxd
    simp [hdst]
  · by_cases hxs : x = src
    · subst hxs
      simp [hxd, hsrc]
    · simp [hxd, hxs]

/-- Moving a file into a directory keeps a tree well formed. -/
theorem WellFormed.of_move (h : t.WellFormed) {u : FileTree}
    (hu : ∀ x, u.get? x = if x = dst then some (.file b) else if x = src then none else t.get? x)
    (hsrc : t.get? src ≠ some .dir) (hdst : t.get? dst ≠ some .dir) {d : List String}
    {n : String} (hd : dst = d ++ [n]) (hpar : t.get? d = some .dir) : u.WellFormed := by
  have hdirs := sameDirs_of_move hu hsrc hdst
  intro q m hq
  rw [hdirs q]
  by_cases hqd : q ++ [m] = dst
  · -- the moved file, whose parent is `d`
    rw [hd] at hqd
    rw [List.append_inj_left' hqd rfl]
    exact hpar
  · rw [hu, if_neg hqd] at hq
    split at hq
    · exact absurd rfl hq
    · exact h q m hq

/-! ## Removing files -/

/-- `u` is `t` with some files removed: the same directories, and at every place what stood
there in `t` or nothing. -/
def Pruned (u t : FileTree) : Prop := SameDirs u t ∧ ∀ x, u.get? x = t.get? x ∨ u.get? x = none

theorem Pruned.refl (t : FileTree) : Pruned t t := ⟨fun _ => Iff.rfl, fun _ => .inl rfl⟩

theorem Pruned.trans {u v : FileTree} (h : Pruned u v) (h' : Pruned v t) : Pruned u t := by
  refine ⟨h.1.trans h'.1, fun x => ?_⟩
  rcases h.2 x with hx | hx
  · rw [hx]
    exact h'.2 x
  · exact .inr hx

theorem WellFormed.pruned_erase (h : t.WellFormed) (hns : t.get? src ≠ some .dir)
    (hne : src ≠ []) : Pruned (t.erase src) t := by
  refine ⟨h.sameDirs_erase hns hne, fun x => ?_⟩
  rw [h.get?_erase_of_not_dir hns hne]
  split
  · exact .inr rfl
  · exact .inl rfl

/-- Removing files from a well-formed tree keeps it well formed. -/
theorem WellFormed.of_pruned (h : t.WellFormed) {u : FileTree} (hu : Pruned u t) :
    u.WellFormed := by
  intro q m hq
  have ht : t.get? (q ++ [m]) ≠ none := by
    rcases hu.2 (q ++ [m]) with he | he
    · rwa [← he]
    · exact absurd he hq
  exact (hu.1 q).mpr (h q m ht)

theorem readAt_eq_dir_iff (t : FileTree) (p : Place) :
    t.readAt p = some .dir ↔ t.get? p.names = some .dir := by
  unfold readAt
  cases t.get? p.names with
  | none => simp
  | some e =>
    cases e with
    | file bytes => cases p.slash <;> simp
    | dir => simp

/-- Trees with the same directories open the same paths as directories. -/
theorem SameDirs.at?_eq_dir_iff {u : FileTree} (h : SameDirs u t) (path : String) :
    u.at? path = some .dir ↔ t.at? path = some .dir := by
  rw [at?_eq_bind, at?_eq_bind, h.locate_toOption]
  cases (t.locate path).toOption with
  | none => simp
  | some p =>
    simp only [Option.bind_some]
    rw [readAt_eq_dir_iff, readAt_eq_dir_iff]
    exact h p.names

/-- A path that opens nothing opens nothing once files are removed. -/
theorem Pruned.at?_eq_none {u : FileTree} (h : Pruned u t) {path : String}
    (ht : t.at? path = none) : u.at? path = none := by
  rw [at?_eq_bind] at ht ⊢
  rw [h.1.locate_toOption]
  cases hl : (t.locate path).toOption with
  | none => rfl
  | some p =>
    rw [hl] at ht
    simp only [Option.bind_some] at ht ⊢
    unfold readAt at ht ⊢
    rcases h.2 p.names with he | he
    · rw [he]
      exact ht
    · rw [he]

end Move

/-! ## Rewriting a file -/

section Rewrite

variable (t : FileTree) (ns : List String) (a b : List UInt8)

/-- Walks see only whether a file stands at a place, never its bytes. -/
theorem step_put_file (hns : ns ≠ []) : (t.put ns (.file a)).step = (t.put ns (.file b)).step := by
  funext d x
  unfold step
  split
  · rfl
  split
  · rfl
  rw [get?_put t hns, get?_put t hns]
  by_cases hx : d ++ [x] = ns <;> simp [hx]

theorem locate_put_file (hns : ns ≠ []) (path : String) :
    (t.put ns (.file a)).locate path = (t.put ns (.file b)).locate path := by
  unfold locate
  rw [step_put_file t ns a b hns]

/-- Rewriting a file's bytes changes nothing a path opens elsewhere. -/
theorem openRead_put_file {path : String}
    (hpath : ∀ p, t.locate path = .ok p → p.names ≠ ns) (hns : ns ≠ []) (hnd : t.get? ns ≠ some .dir) :
    (t.put ns (.file a)).openRead path = (t.put ns (.file b)).openRead path := by
  unfold openRead
  rw [locate_put_file t ns a b hns]
  cases hl : (t.put ns (.file b)).locate path with
  | error e => rfl
  | ok p =>
    have hp : p.names ≠ ns :=
      hpath p ((sameDirs_put_file hnd hns b).locate_eq_ok hl)
    dsimp only [bind, Except.bind]
    rw [get?_put t hns, get?_put t hns, if_neg hp, if_neg hp]

end Rewrite

/-! ## Paths that name one place -/

/-- Two paths name the same place: both can be walked, to the same names. -/
def SameFile (t : FileTree) (a b : String) : Prop :=
  (t.locate a).toOption.map Place.names ≠ none ∧
    (t.locate a).toOption.map Place.names = (t.locate b).toOption.map Place.names

instance (t : FileTree) (a b : String) : Decidable (t.SameFile a b) :=
  inferInstanceAs (Decidable (_ ∧ _))

theorem names_ne_of_not_sameFile {t : FileTree} {a b : String} (h : ¬ t.SameFile a b)
    {p q : Place} (hp : t.locate a = .ok p) (hq : t.locate b = .ok q) : p.names ≠ q.names := by
  intro hpq
  apply h
  rw [SameFile, hp, hq]
  simp [Except.toOption, hpq]

end DownloadEngine.FileTree
