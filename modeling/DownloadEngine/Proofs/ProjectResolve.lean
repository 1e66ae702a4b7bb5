import DownloadEngine.Proofs.TaskPaths

/-!
# Resolving project paths

A project path resolves under the projects root in one of three ways, decided in order. A
project id that does not read as exactly one name is refused as an invalid project. Otherwise a
relative path with a `..` segment is refused as traversal, wherever the segment stands.
Otherwise the result is the root, then the project's name, then the relative path's segments
that name something, in order: leading slashes, empty segments and `.` segments stand for
nothing. An accepted path therefore lies inside the project directory and adds no `..`.

The relative path's segments are the texts between its slashes with the empty ones left out,
as `FileTree.pieces` reads them.

## Main statements

* `Project.isSingleName_iff`: a project id is accepted exactly when it reads as one name.
* `Project.resolve_of_isSingleName`: under an accepted project id, resolving refuses a `..`
  segment and otherwise joins the named segments one by one.
* `Project.resolve_accepts_safe_paths`: the three outcomes of a resolution.
-/

namespace DownloadEngine

open FsPath

namespace FsPath

/-- A segment stands for no piece when it is empty or `.`, for `..` when it spells `..`, and
otherwise for the name it spells. -/
theorem segmentComponent_eq (seg : List Char) :
    segmentComponent seg =
      if String.ofList seg = "" ∨ String.ofList seg = "." then none
      else if String.ofList seg = ".." then some .parentDir
      else some (.normal (String.ofList seg)) := by
  have hdot : String.ofList seg = "." ↔ seg = ['.'] := by
    rw [show "." = String.ofList ['.'] from rfl, String.ofList_inj]
  have hdots : String.ofList seg = ".." ↔ seg = ['.', '.'] := by
    rw [show ".." = String.ofList ['.', '.'] from rfl, String.ofList_inj]
  simp only [segmentComponent, String.ofList_eq_empty_iff, hdot, hdots, Bool.or_eq_true,
    List.isEmpty_iff, beq_iff_eq]

theorem hasRoot_dropWhile_sep (l : List Char) : hasRoot (l.dropWhile (· == '/')) = false := by
  cases h : l.dropWhile (· == '/') with
  | nil => rfl
  | cons c r =>
    -- what is left starts with the first character that is no separator
    have hc := List.head_dropWhile_not (· == '/') (l := l) (by simp [h])
    simp only [h, List.head_cons] at hc
    simp [hasRoot, hc]

/-- Leading separators stand for no piece. -/
theorem pieces_dropWhile_sep (l : List Char) : pieces (l.dropWhile (· == '/')) = pieces l := by
  induction l with
  | nil => rfl
  | cons c rest ih =>
    by_cases hc : c = '/'
    · subst hc
      have hsep : pieces ('/' :: rest) = pieces rest := by
        simpa using pieces_append_sep [] rest
      rw [List.dropWhile_cons_of_pos (by simp), ih, hsep]
    · rw [List.dropWhile_cons_of_neg (by simpa using hc)]

/-- A current-directory mark stands for no piece of the body. -/
theorem pieces_drop_frontLength {d : List Char} (hr : hasRoot d = false) :
    pieces (d.drop (frontLength d)) = pieces d := by
  by_cases hc : startsWithCurDir d = true
  · -- the mark is `.` alone or `.` before a separator
    have hf : frontLength d = 1 := by simp [frontLength, hr, hc]
    rw [hf]
    rcases d with _ | ⟨c, _ | ⟨c', v⟩⟩
    · simp [startsWithCurDir] at hc
    · obtain ⟨-, rfl⟩ : ¬c = '/' ∧ c = '.' := by simpa [startsWithCurDir, hasRoot] using hc
      rfl
    · obtain ⟨-, rfl, rfl⟩ : ¬c = '/' ∧ c = '.' ∧ c' = '/' := by
        simpa [startsWithCurDir, hasRoot] using hc
      have hdot : pieces ('.' :: '/' :: v) = pieces v := by
        have h1 : pieces ['.'] = [] := rfl
        simpa [h1] using pieces_append_sep ['.'] v
      have hsep : pieces ('/' :: v) = pieces v := by simpa using pieces_append_sep [] v
      rw [List.drop_one, List.tail_cons, hdot, hsep]
  · have hf : frontLength d = 0 := by simp [frontLength, hr, Bool.eq_false_iff.mpr hc]
    rw [hf, List.drop_zero]

/-- A path with its leading separators dropped reads as a current-directory mark, if any,
followed by the pieces of the whole path. -/
theorem components_dropWhile_sep (l : List Char) :
    components (String.ofList (l.dropWhile (· == '/'))) =
      (if startsWithCurDir (l.dropWhile (· == '/')) then [Component.curDir] else []) ++ pieces l := by
  have hr := hasRoot_dropWhile_sep l
  rw [components_eq_pieces, String.toList_ofList, hr, pieces_drop_frontLength hr,
    pieces_dropWhile_sep]
  simp

/-- A path whose pieces are one name has no front, and joining it appends that name. -/
theorem components_join_of_single {root id n : String} (hn : components id = [.normal n]) :
    components (join root id) = components root ++ [.normal n] := by
  have h0 : frontLength id.toList = 0 := by
    rw [components_eq_pieces] at hn
    unfold frontLength
    cases hr : hasRoot id.toList <;> cases hc : startsWithCurDir id.toList <;> simp_all
  rw [components_join root id h0, ← components_of_frontLength_zero h0, hn]

/-- A segment that names something, and is not `..`, is a name. -/
theorem isName_of_mem_pieces {path n : String} (h : n ∈ FileTree.pieces path) (hdot : n ≠ ".")
    (hdots : n ≠ "..") : IsName n := by
  obtain ⟨hmem, hne⟩ := List.mem_filter.mp h
  obtain ⟨seg, hseg, rfl⟩ := List.mem_map.mp hmem
  refine ⟨by simpa using sep_not_mem_of_mem_splitOn hseg, ?_⟩
  rw [String.toList_ofList, segmentComponent_eq]
  simp_all

end FsPath

namespace Project

/-- A project id is accepted exactly when it reads as one name. -/
theorem isSingleName_iff (id : String) :
    isSingleName id = true ↔ ∃ n, components id = [.normal n] := by
  unfold isSingleName
  split
  · next n h => exact ⟨fun _ => ⟨n, h⟩, fun _ => rfl⟩
  · next h =>
    simp only [Bool.false_eq_true, false_iff, not_exists]
    exact h

@[simp] theorem appendPieces_curDir (relative out : String) (cs : List Component) :
    appendPieces relative out (.curDir :: cs) = appendPieces relative out cs := rfl

/-- Appending the pieces of some segments refuses a `..` among them and otherwise joins those
that name something, in order. -/
theorem appendPieces_filterMap (relative : String) (segs : List (List Char)) (out : String) :
    appendPieces relative out (segs.filterMap segmentComponent) =
      if ".." ∈ (segs.map String.ofList).filter (· ≠ "") then .error (.traversal relative)
      else .ok ((((segs.map String.ofList).filter (· ≠ "")).filter (· ≠ ".")).foldl join out) := by
  induction segs generalizing out with
  | nil => rfl
  | cons seg rest ih =>
    rw [List.filterMap_cons, segmentComponent_eq]
    -- the segment stands for nothing, for `..`, or for its name
    by_cases he : String.ofList seg = ""
    · simp [he, ih]
    by_cases hd : String.ofList seg = "."
    · simp [hd, ih]
    by_cases hdd : String.ofList seg = ".."
    · simp [hdd, appendPieces]
    have hne : ".." ≠ String.ofList seg := Ne.symm hdd
    simp [he, hd, hdd, hne, appendPieces, ih]

/-- Under an accepted project id, resolving refuses a `..` segment of the relative path and
otherwise joins the named segments to the project directory, one by one. -/
theorem resolve_of_isSingleName (root : String) {projectId : String}
    (h : isSingleName projectId = true) (relative : String) :
    resolve root projectId relative =
      if ".." ∈ FileTree.pieces relative then .error (.traversal relative)
      else .ok (((FileTree.pieces relative).filter (· ≠ ".")).foldl join (join root projectId)) := by
  rw [resolve, if_pos h]
  dsimp only
  rw [components_dropWhile_sep]
  -- a leading current-directory mark is skipped like any `.`
  have hfront : ∀ cs, appendPieces relative (join root projectId)
      ((if startsWithCurDir (relative.toList.dropWhile (· == '/')) then [Component.curDir]
        else []) ++ cs) = appendPieces relative (join root projectId) cs := by
    intro cs
    split <;> rfl
  rw [hfront, pieces, appendPieces_filterMap]
  rfl

/-- The three outcomes of resolving a project path: an id that is not exactly one name is an
invalid project; otherwise a `..` segment anywhere is traversal; otherwise the path is the root,
the project's name and the segments of the relative path that are neither empty nor `.`, in
order, so it lies inside the project directory. -/
theorem resolve_accepts_safe_paths (root projectId relative : String) :
    (resolve root projectId relative = .error (.invalidProject projectId) ↔
      ¬ ∃ n, components projectId = [.normal n]) ∧
    ∀ n, components projectId = [.normal n] →
      (resolve root projectId relative = .error (.traversal relative) ↔
        ".." ∈ FileTree.pieces relative) ∧
      (".." ∉ FileTree.pieces relative →
        ∃ p, resolve root projectId relative = .ok p ∧
          components p = components root ++ .normal n ::
            ((FileTree.pieces relative).filter (· ≠ ".")).map .normal ∧
          Inside (join root projectId) p) := by
  refine ⟨?_, fun n hn => ?_⟩
  · rw [← isSingleName_iff]
    cases hs : isSingleName projectId
    · simp [resolve, hs]
    · rw [resolve_of_isSingleName root hs]
      split <;> simp
  · rw [resolve_of_isSingleName root ((isSingleName_iff projectId).2 ⟨n, hn⟩)]
    refine ⟨by split <;> simp [*], fun hdots => ?_⟩
    rw [if_neg hdots]
    -- every named segment is a name, so joining them appends them
    have hnames : ∀ m ∈ (FileTree.pieces relative).filter (· ≠ "."), IsName m := by
      intro m hm
      obtain ⟨hp, hdot⟩ := List.mem_filter.mp hm
      exact isName_of_mem_pieces hp (by simpa using hdot) (fun h => hdots (h ▸ hp))
    have hcomp := components_foldl_join (join root projectId) hnames
    refine ⟨_, rfl, ?_, ⟨_, hcomp⟩⟩
    rw [hcomp, components_join_of_single hn]
    simp

/-- The project `p1/.` reads as the name `p1`, and `/raw/./reads.fq` resolves below it to the
names `raw` and `reads.fq`. -/
theorem resolve_accepts_safe_paths_at_reads :
    components "p1/." = [.normal "p1"] ∧ ".." ∉ FileTree.pieces "/raw/./reads.fq" ∧
      ∃ p, resolve "/srv/projects" "p1/." "/raw/./reads.fq" = .ok p ∧
        components p = components "/srv/projects" ++ .normal "p1" ::
          ((FileTree.pieces "/raw/./reads.fq").filter (· ≠ ".")).map .normal ∧
        Inside (join "/srv/projects" "p1/.") p := by
  have hp : components "p1/." = [.normal "p1"] := by decide
  have hd : ".." ∉ FileTree.pieces "/raw/./reads.fq" := by decide
  exact ⟨hp, hd, ((resolve_accepts_safe_paths "/srv/projects" "p1/." "/raw/./reads.fq").2 "p1"
    hp).2 hd⟩

end Project

end DownloadEngine
