import DownloadEngine.FsPath
import Mathlib.Data.List.TakeWhile

/-!
# The pieces of a path

A path reads as its front, the root or the current-directory mark, followed by the pieces its
body's segments stand for. Joining, taking the parent and appending to the last name all act
on that reading in the expected way, whatever separators and `.` segments the texts hold:

* `components_join`: joining a path with no front appends its pieces;
* `parent?_join_name`: the parent of a path joined with a name has the pieces of the base;
* `components_trimBack`: trailing empty and `.` segments stand for nothing;
* `isName_of_mem_components`: every name piece of a path is a name, with no separator.

The proofs cut a path at its last separator (`lastSegment_spec`) and follow the loops of
`parent?` one segment at a time.
-/

namespace DownloadEngine.FsPath

/-! ## Pieces of a body -/

/-- The pieces that the segments of a path's body stand for. -/
def pieces (body : List Char) : List Component := (body.splitOn '/').filterMap segmentComponent

/-- A path is its front followed by the pieces of its body. -/
theorem components_eq_pieces (s : String) :
    components s = (if hasRoot s.toList then [Component.rootDir] else []) ++
      (if startsWithCurDir s.toList then [Component.curDir] else []) ++
      pieces (s.toList.drop (frontLength s.toList)) := rfl

@[simp] theorem pieces_nil : pieces [] = [] := rfl

theorem pieces_append_sep (u v : List Char) : pieces (u ++ '/' :: v) = pieces u ++ pieces v := by
  simp [pieces, List.splitOn_append_cons_self, List.filterMap_append]

theorem pieces_of_sep_not_mem {u : List Char} (h : '/' ∉ u) :
    pieces u = (segmentComponent u).toList := by
  rw [pieces, List.splitOn_eq_singleton h]
  cases hs : segmentComponent u <;> simp [hs]

/-- A segment stands for no piece, for `..`, or for the name it spells. -/
theorem segmentComponent_cases (seg : List Char) :
    segmentComponent seg = none ∨ segmentComponent seg = some .parentDir ∨
      segmentComponent seg = some (.normal (String.ofList seg)) := by
  unfold segmentComponent
  split
  · exact Or.inl rfl
  · split
    · exact Or.inr (Or.inl rfl)
    · exact Or.inr (Or.inr rfl)

/-- The pieces of a body are `..` or names. -/
theorem mem_pieces {l : List Char} {c : Component} (h : c ∈ pieces l) :
    c = .parentDir ∨ ∃ n, c = .normal n := by
  obtain ⟨seg, -, hc⟩ := List.mem_filterMap.mp h
  rcases segmentComponent_cases seg with h' | h' | h' <;> rw [h'] at hc <;> cases hc
  · exact Or.inl rfl
  · exact Or.inr ⟨_, rfl⟩

/-- No segment holds a separator. -/
theorem sep_not_mem_of_mem_splitOn {l seg : List Char} (h : seg ∈ l.splitOn '/') : '/' ∉ seg := by
  induction l generalizing seg with
  | nil =>
      rw [List.splitOn_nil, List.mem_singleton] at h
      subst h
      simp
  | cons x xs ih =>
      rw [List.splitOn_cons_eq_if_modifyHead] at h
      split at h
      · -- a separator starts a new, empty segment
        rcases List.mem_cons.mp h with rfl | h
        · simp
        · exact ih h
      · next hx =>
        -- any other character joins the first segment
        obtain ⟨first, rest, hfr⟩ := List.exists_cons_of_ne_nil (List.splitOn_ne_nil '/' xs)
        rw [hfr, List.modifyHead_cons] at h
        rcases List.mem_cons.mp h with rfl | h
        · have hmem : first ∈ xs.splitOn '/' := by rw [hfr]; exact List.mem_cons_self
          have hfirst := ih hmem
          have hx' : x ≠ '/' := by simpa using hx
          simp [hfirst, Ne.symm hx']
        · exact ih (by rw [hfr]; exact List.mem_cons_of_mem _ h)

/-! ## The front -/

theorem hasRoot_append {b : List Char} (hb : b ≠ []) (x : List Char) :
    hasRoot (b ++ x) = hasRoot b := by
  obtain ⟨c, r, rfl⟩ := List.exists_cons_of_ne_nil hb
  rfl

theorem startsWithCurDir_append_sep {b : List Char} (hb : b ≠ []) (v : List Char) :
    startsWithCurDir (b ++ '/' :: v) = startsWithCurDir b := by
  match b, hb with
  | [c], _ => by_cases hc : c = '.' <;> simp [startsWithCurDir, hasRoot, hc]
  | c :: d :: r, _ => simp [startsWithCurDir, hasRoot]

theorem frontLength_append_sep {b : List Char} (hb : b ≠ []) (v : List Char) :
    frontLength (b ++ '/' :: v) = frontLength b := by
  simp only [frontLength, hasRoot_append hb, startsWithCurDir_append_sep hb]

/-- A path has a root or a current-directory mark, never both. -/
theorem frontLength_le_one (p : List Char) : frontLength p ≤ 1 := by
  unfold frontLength startsWithCurDir
  cases hasRoot p
  · simp only [Bool.false_eq_true, if_false, Bool.not_false, Bool.true_and, Nat.zero_add]
    split <;> omega
  · simp

theorem frontLength_le_length {b : List Char} (hb : b ≠ []) : frontLength b ≤ b.length := by
  have h₁ := frontLength_le_one b
  have h₂ := List.length_pos_iff.mpr hb
  omega

theorem frontLength_congr {p q : List Char} (hr : hasRoot q = hasRoot p)
    (hc : startsWithCurDir q = startsWithCurDir p) : frontLength q = frontLength p := by
  simp only [frontLength, hr, hc]

/-- The front of a path is kept by cutting the path right after its front. -/
theorem front_take_frontLength (p : List Char) :
    hasRoot (p.take (frontLength p)) = hasRoot p ∧
      startsWithCurDir (p.take (frontLength p)) = startsWithCurDir p := by
  rcases p with _ | ⟨c, _ | ⟨d, r⟩⟩
  · exact ⟨rfl, rfl⟩
  · by_cases hc : c = '/' <;> by_cases hc' : c = '.' <;>
      simp [frontLength, hasRoot, startsWithCurDir, hc, hc']
  · by_cases hc : c = '/' <;> by_cases hc' : c = '.' <;> by_cases hd : d = '/' <;>
      simp [frontLength, hasRoot, startsWithCurDir, hc, hc', hd]

theorem hasRoot_of_frontLength_zero {p : List Char} (hp : frontLength p = 0) : hasRoot p = false := by
  unfold frontLength at hp
  cases h : hasRoot p <;> simp_all

/-- A path with neither a root nor a current-directory mark is its pieces. -/
theorem components_of_frontLength_zero {p : String} (hp : frontLength p.toList = 0) :
    components p = pieces p.toList := by
  have hr : hasRoot p.toList = false := by
    unfold frontLength at hp
    cases h : hasRoot p.toList <;> simp_all
  have hc : startsWithCurDir p.toList = false := by
    unfold frontLength at hp
    cases h : startsWithCurDir p.toList <;> simp_all
  rw [components_eq_pieces, hr, hc, hp]
  rfl

theorem components_root_cons (v : List Char) :
    components (String.ofList ('/' :: v)) = .rootDir :: pieces v := by
  simp [components_eq_pieces, hasRoot, startsWithCurDir, frontLength]

/-- Appending a separator and a body to a nonempty path appends the body's pieces. -/
theorem components_append_sep {b : List Char} (hb : b ≠ []) (v : List Char) :
    components (String.ofList (b ++ '/' :: v)) = components (String.ofList b) ++ pieces v := by
  simp only [components_eq_pieces, String.toList_ofList, hasRoot_append hb,
    startsWithCurDir_append_sep hb, frontLength_append_sep hb,
    List.drop_append_of_le_length (frontLength_le_length hb), pieces_append_sep, List.append_assoc]

/-! ## The last segment and the parent -/

/-- What follows the last separator. -/
theorem takeWhile_reverse_append_sep {u v : List Char} (hv : '/' ∉ v) :
    ((u ++ '/' :: v).reverse.takeWhile (· != '/')).reverse = v := by
  have hrev : (u ++ '/' :: v).reverse = v.reverse ++ '/' :: u.reverse := by simp
  rw [hrev, List.takeWhile_append_of_pos, List.takeWhile_cons_of_neg (by simp), List.append_nil,
    List.reverse_reverse]
  intro c hc
  have : c ≠ '/' := fun h => hv (List.mem_reverse.mp (h ▸ hc))
  simpa using this

theorem takeWhile_reverse_of_sep_not_mem {v : List Char} (hv : '/' ∉ v) :
    (v.reverse.takeWhile (· != '/')).reverse = v := by
  rw [List.takeWhile_eq_self_iff.mpr ?_, List.reverse_reverse]
  intro c hc
  have : c ≠ '/' := fun h => hv (List.mem_reverse.mp (h ▸ hc))
  simpa using this

/-- The last segment of a body has no separator, and it is the whole body or follows the
body's last separator. -/
theorem lastSegment_spec (p : List Char) (front : Nat) :
    '/' ∉ (lastSegment p front).1 ∧
      ((p.drop front = (lastSegment p front).1 ∧
          (lastSegment p front).2 = (lastSegment p front).1.length) ∨
        ∃ u, p.drop front = u ++ '/' :: (lastSegment p front).1 ∧
          (lastSegment p front).2 = (lastSegment p front).1.length + 1) := by
  unfold lastSegment
  dsimp only
  generalize p.drop front = body
  -- the reversed body splits where its last separator stands
  have hsplit := List.takeWhile_append_dropWhile (p := (· != '/')) (l := body.reverse)
  generalize hT : body.reverse.takeWhile (· != '/') = T at hsplit
  generalize hD : body.reverse.dropWhile (· != '/') = D at hsplit
  have hseg : '/' ∉ T.reverse := by
    intro hm
    have := List.mem_takeWhile_imp (hT ▸ List.mem_reverse.mp hm)
    simp at this
  refine ⟨hseg, ?_⟩
  cases D with
  | nil =>
      have hbody : body = T.reverse := by
        rw [← List.reverse_reverse body, ← hsplit, List.append_nil]
      left
      subst hbody
      simp
  | cons d D' =>
      have hd : d = '/' := by
        have := List.head_dropWhile_not (· != '/') (l := body.reverse) (by simp [hD])
        simpa [hD] using this
      subst hd
      have hbody : body = D'.reverse ++ '/' :: T.reverse := by
        rw [← List.reverse_reverse body, ← hsplit]
        simp
      right
      refine ⟨D'.reverse, hbody, ?_⟩
      rw [if_pos (by rw [hbody]; simp; omega)]

/-- Cutting the last segment off a path's body keeps its front and drops the piece the segment
stands for. -/
theorem components_take_lastSegment {p : List Char} (hp : frontLength p < p.length) :
    frontLength (p.take (p.length - (lastSegment p (frontLength p)).2)) = frontLength p ∧
      components (String.ofList p) =
        components (String.ofList (p.take (p.length - (lastSegment p (frontLength p)).2))) ++
          (segmentComponent (lastSegment p (frontLength p)).1).toList := by
  obtain ⟨hno, ⟨hbody, hsize⟩ | ⟨u, hbody, hsize⟩⟩ := lastSegment_spec p (frontLength p)
  · -- the body is one segment: what is left is the front alone
    obtain ⟨hroot, hcur⟩ := front_take_frontLength p
    have hfront := frontLength_congr hroot hcur
    generalize hf : frontLength p = f at hbody hsize hp hno hroot hcur hfront ⊢
    generalize lastSegment p f = ls at hbody hsize hno ⊢
    have hlen : p.length - ls.2 = f := by
      have := congrArg List.length hbody
      simp only [List.length_drop] at this
      omega
    rw [hlen]
    refine ⟨hfront, ?_⟩
    simp only [components_eq_pieces, String.toList_ofList, hroot, hcur]
    rw [hfront, hf, List.drop_take_self, hbody, pieces_of_sep_not_mem hno]
    simp
  · -- the body ends with a separator and the last segment
    generalize hf : frontLength p = f at hbody hsize hp hno ⊢
    generalize lastSegment p f = ls at hbody hsize hno ⊢
    have hsplit : p = (p.take f ++ u) ++ '/' :: ls.1 := by
      rw [List.append_assoc, ← hbody, List.take_append_drop]
    generalize hrest : p.take f ++ u = rest at hsplit
    have hlen : p.length - ls.2 = rest.length := by
      have := congrArg List.length hsplit
      simp only [List.length_append, List.length_cons] at this
      omega
    have hne : rest ≠ [] := by
      -- an empty rest would leave a rooted path with no front
      rintro rfl
      have hf0 : f = 0 := by
        have : p.take f = [] := (List.append_eq_nil_iff.mp hrest).1
        rw [List.take_eq_nil_iff] at this
        rcases this with h | h
        · exact h
        · simp [h] at hp
      have : frontLength p = 1 := by rw [hsplit]; rfl
      omega
    rw [hlen]
    have htake : p.take rest.length = rest := by
      rw [hsplit]
      exact List.take_left
    rw [htake]
    refine ⟨by rw [← hf, hsplit, frontLength_append_sep hne], ?_⟩
    calc components (String.ofList p)
        = components (String.ofList (rest ++ '/' :: ls.1)) := by rw [← hsplit]
      _ = components (String.ofList rest) ++ (segmentComponent ls.1).toList := by
        rw [components_append_sep hne, pieces_of_sep_not_mem hno]

/-- Dropping trailing empty and `.` segments keeps the front and the pieces. -/
theorem components_trimBack (fuel : Nat) {front : Nat} {p : List Char}
    (hf : frontLength p = front) :
    frontLength (trimBack front fuel p) = front ∧
      components (String.ofList (trimBack front fuel p)) = components (String.ofList p) := by
  induction fuel generalizing p with
  | zero => exact ⟨hf, rfl⟩
  | succ fuel ih =>
      unfold trimBack
      split
      · exact ⟨hf, rfl⟩
      · next hlong =>
        subst hf
        obtain ⟨hfront, hcomp⟩ := components_take_lastSegment (p := p) (by omega)
        split
        next seg size hlast =>
        rw [hlast] at hfront hcomp
        dsimp only at hfront hcomp
        split
        · next hnone =>
          obtain ⟨hfront', hcomp'⟩ := ih hfront
          refine ⟨hfront', ?_⟩
          rw [hcomp', hcomp, hnone]
          simp
        · exact ⟨rfl, rfl⟩

/-- The parent of a path whose last segment stands for a piece has the other pieces. -/
theorem components_parent?_of_lastSegment {p : List Char} {c : Component}
    (hp : frontLength p < p.length)
    (hc : segmentComponent (lastSegment p (frontLength p)).1 = some c) :
    ∃ q, parent? (String.ofList p) = some q ∧ components q ++ [c] = components (String.ofList p) := by
  obtain ⟨hfront, hcomp⟩ := components_take_lastSegment hp
  have hdrop : dropLastPiece (frontLength p) (p.length + 1) p =
      (true, p.take (p.length - (lastSegment p (frontLength p)).2)) := by
    rw [dropLastPiece, if_neg (by omega)]
    dsimp only
    rw [if_neg (by rw [hc]; simp)]
  generalize p.take (p.length - (lastSegment p (frontLength p)).2) = rest at hfront hcomp hdrop
  obtain ⟨-, htrim⟩ := components_trimBack (rest.length + 1) hfront
  refine ⟨String.ofList (trimBack (frontLength p) (rest.length + 1) rest), ?_, ?_⟩
  · simp only [parent?, String.toList_ofList, hdrop]
  · rw [htrim, hcomp, hc]
    rfl

/-! ## Joining -/

/-- What joining a relative path does to a base: nothing to the empty base, and otherwise it
puts one separator between the base (less a trailing separator) and the path. -/
theorem join_cases (base p : String) (hp : hasRoot p.toList = false) :
    (base = "" ∧ join base p = p) ∨ (base = "/" ∧ (join base p).toList = '/' :: p.toList) ∨
      ∃ b, b ≠ [] ∧ components (String.ofList b) = components base ∧
        (join base p).toList = b ++ '/' :: p.toList := by
  unfold join
  rw [if_neg (by simp [hp])]
  by_cases hb : base = ""
  · exact Or.inl ⟨hb, by simp [hb]⟩
  rw [if_neg (by simpa [String.isEmpty_iff] using hb)]
  split
  · next hlast =>
    -- a trailing separator is the one that separates
    obtain ⟨b, hbase⟩ := List.getLast?_eq_some_iff.mp (by simpa using hlast)
    by_cases hbn : b = []
    · subst hbn
      refine Or.inr (Or.inl ⟨?_, by simp [String.toList_append, hbase]⟩)
      rw [← String.ofList_toList (s := base), hbase]
      rfl
    · refine Or.inr (Or.inr ⟨b, hbn, ?_, by simp [String.toList_append, hbase]⟩)
      rw [← String.ofList_toList (s := base), hbase, components_append_sep hbn]
      simp
  · refine Or.inr (Or.inr ⟨base.toList, by simpa using hb, by simp, ?_⟩)
    simp [String.toList_append]

/-- Joining a path with no front appends its pieces. -/
theorem components_join (base p : String) (hp : frontLength p.toList = 0) :
    components (join base p) = components base ++ pieces p.toList := by
  rcases join_cases base p (hasRoot_of_frontLength_zero hp) with
    ⟨rfl, hj⟩ | ⟨rfl, hj⟩ | ⟨b, hb, hcomp, hj⟩
  · rw [hj, components_of_frontLength_zero hp]
    rfl
  · rw [← String.ofList_toList (s := join _ p), hj, components_root_cons]
    rfl
  · rw [← String.ofList_toList (s := join base p), hj, components_append_sep hb, hcomp]

/-- Text appended to a joined path is appended to its last part. -/
theorem join_append (base : String) {p : String} (hp : p ≠ "") (hroot : hasRoot p.toList = false)
    (s : String) : join base p ++ s = join base (p ++ s) := by
  have hroot' : hasRoot (p ++ s).toList = false := by
    rw [String.toList_append, hasRoot_append (by simpa using hp)]
    exact hroot
  simp only [join, hroot, hroot', Bool.false_eq_true, if_false]
  by_cases hb : base.isEmpty = true
  · simp [hb]
  · by_cases hl : (base.toList.getLast? == some '/') = true <;> simp [hb, hl, String.append_assoc]

/-! ## Names -/

/-- A name: a segment with no separator that stands for the name it spells. -/
structure IsName (n : String) : Prop where
  sep_not_mem : '/' ∉ n.toList
  segment : segmentComponent n.toList = some (.normal n)

theorem IsName.toList_ne_nil {n : String} (h : IsName n) : n.toList ≠ [] := by
  intro he
  have := h.segment
  rw [he] at this
  simp [segmentComponent] at this

theorem IsName.frontLength_eq_zero {n : String} (h : IsName n) : frontLength n.toList = 0 := by
  obtain ⟨c, r, hcr⟩ := List.exists_cons_of_ne_nil h.toList_ne_nil
  have hsep := h.sep_not_mem
  have hseg := h.segment
  rw [hcr] at hsep hseg ⊢
  have hc : c ≠ '/' := fun hc => hsep (by simp [hc])
  -- a current-directory mark would be the segment `.` or would start with `./`
  have hdot : (c :: r == ['.']) = false := by
    cases hd : (c :: r == ['.'])
    · rfl
    · rw [beq_iff_eq.mp hd] at hseg
      simp [segmentComponent] at hseg
  have htwo : ((c :: r).take 2 == ['.', '/']) = false := by
    cases ht : ((c :: r).take 2 == ['.', '/'])
    · rfl
    · have hm : '/' ∈ (c :: r).take 2 := by rw [beq_iff_eq.mp ht]; simp
      exact absurd (List.mem_of_mem_take hm) hsep
  have hroot : hasRoot (c :: r) = false := by simp [hasRoot, hc]
  have hcur : startsWithCurDir (c :: r) = false := by
    simp only [startsWithCurDir, hdot, htwo, Bool.or_false, Bool.and_false]
  simp [frontLength, hroot, hcur]

theorem IsName.pieces_eq {n : String} (h : IsName n) : pieces n.toList = [.normal n] := by
  rw [pieces_of_sep_not_mem h.sep_not_mem, h.segment]
  rfl

/-- A text of more than two characters with no separator is a name. -/
theorem isName_of_two_lt_length {n : String} (hsep : '/' ∉ n.toList) (hlen : 2 < n.length) :
    IsName n := by
  refine ⟨hsep, ?_⟩
  have hne : n.toList.isEmpty = false := by
    rw [List.isEmpty_eq_false_iff]
    intro he
    simp [← String.length_toList, he] at hlen
  have h₁ : (n.toList == ['.']) = false := by
    rw [beq_eq_false_iff_ne]
    intro he
    simp [← String.length_toList, he] at hlen
  have h₂ : (n.toList == ['.', '.']) = false := by
    rw [beq_eq_false_iff_ne]
    intro he
    simp [← String.length_toList, he] at hlen
  simp [segmentComponent, hne, h₁, h₂]

/-- A text of more than two characters with no separator, followed by a number, is a name: a
number's digits hold no separator. -/
theorem isName_append_toString {front : String} (hsep : '/' ∉ front.toList)
    (hlen : 2 < front.length) (n : Nat) : IsName (front ++ toString n) := by
  apply isName_of_two_lt_length
  · simp only [String.toList_append, List.mem_append, not_or, Nat.toString_eq_ofList_toDigits,
      String.toList_ofList]
    refine ⟨hsep, fun hm => ?_⟩
    have := Nat.isDigit_of_mem_toDigits (by decide) (by decide) hm
    exact absurd this (by decide)
  · simp only [String.length_append]
    omega

/-- Every name piece of a path is a name. -/
theorem isName_of_mem_components {s n : String} (h : Component.normal n ∈ components s) :
    IsName n := by
  rw [components_eq_pieces] at h
  simp only [List.mem_append] at h
  rcases h with (h | h) | h
  · split at h <;> simp at h
  · split at h <;> simp at h
  · obtain ⟨seg, hseg, hc⟩ := List.mem_filterMap.mp h
    have hsep := sep_not_mem_of_mem_splitOn hseg
    rcases segmentComponent_cases seg with h' | h' | h' <;> rw [h'] at hc
    · cases hc
    · cases hc
    · obtain rfl : String.ofList seg = n := by simpa using hc
      exact ⟨by simpa using hsep, by simpa using h'⟩

/-- Joining a name appends it. -/
theorem components_join_name (base : String) {n : String} (h : IsName n) :
    components (join base n) = components base ++ [.normal n] := by
  rw [components_join base n h.frontLength_eq_zero, h.pieces_eq]

/-- Joining names one after another appends them. -/
theorem components_foldl_join (out : String) {names : List String} (h : ∀ n ∈ names, IsName n) :
    components (names.foldl join out) = components out ++ names.map .normal := by
  induction names generalizing out with
  | nil => simp
  | cons n rest ih =>
      rw [List.foldl_cons, ih (join out n) (fun m hm => h m (List.mem_cons_of_mem _ hm)),
        components_join_name out (h n List.mem_cons_self)]
      simp

/-- The last segment of a path joined with a name is that name, and the path is longer than its
front. -/
theorem lastSegment_join_name (base : String) {n : String} (h : IsName n) :
    frontLength (join base n).toList < (join base n).toList.length ∧
      (lastSegment (join base n).toList (frontLength (join base n).toList)).1 = n.toList := by
  have hlen := List.length_pos_iff.mpr h.toList_ne_nil
  rcases join_cases base n (hasRoot_of_frontLength_zero h.frontLength_eq_zero) with
    ⟨-, hj⟩ | ⟨-, hj⟩ | ⟨b, hb, -, hj⟩
  · -- the name alone
    rw [hj, h.frontLength_eq_zero]
    exact ⟨hlen, by simp [lastSegment, takeWhile_reverse_of_sep_not_mem h.sep_not_mem]⟩
  · -- the name under the root
    have hf : frontLength ('/' :: n.toList) = 1 := rfl
    rw [hj, hf]
    exact ⟨by simp; omega, by simp [lastSegment, takeWhile_reverse_of_sep_not_mem h.sep_not_mem]⟩
  · -- the name after a separator
    rw [hj, frontLength_append_sep hb]
    have hf := frontLength_le_length hb
    refine ⟨by simp; omega, ?_⟩
    simp only [lastSegment, List.drop_append_of_le_length hf]
    exact takeWhile_reverse_append_sep h.sep_not_mem

/-- The parent of a path joined with a name has the pieces of the base. -/
theorem parent?_join_name (base : String) {n : String} (h : IsName n) :
    ∃ q, parent? (join base n) = some q ∧ components q = components base := by
  obtain ⟨hlong, hlast⟩ := lastSegment_join_name base h
  have hseg : segmentComponent (lastSegment (join base n).toList
      (frontLength (join base n).toList)).1 = some (.normal n) := by
    rw [hlast, h.segment]
  obtain ⟨q, hq, hcomp⟩ := components_parent?_of_lastSegment hlong hseg
  rw [String.ofList_toList, components_join_name base h] at hcomp
  rw [String.ofList_toList] at hq
  exact ⟨q, hq, List.append_cancel_right hcomp⟩

end DownloadEngine.FsPath
