import DownloadEngine.Proofs.PathPieces
import DownloadEngine.Controller.Worker

/-!
# Where a task's files lie

A task writes its destination, the destination's `.part` file, and a chunk directory
`.tmp_<id>` beside the destination holding one file per chunk; cancelling it removes all
three. The resolver keeps the destination inside the project directory, but the id goes into
the chunk directory's path unchecked, so the chunk directory is `.tmp_<id>` read as a path:
its `..` pieces climb, and its separators nest one id's directory inside another's.

`task_files_private_iff` says exactly when the files stay inside the project and apart from
another task's beside the same destination; `task_files_escape` gives an id that climbs into
another project, two ids whose directories nest, and the empty file name, which makes the
destination the project directory itself.
-/

namespace DownloadEngine

open FsPath

namespace Project

/-- Appending the pieces of a path gives the base joined with the names among them. -/
theorem appendPieces_ok {relative : String} {cs : List Component}
    (hnames : ∀ n, Component.normal n ∈ cs → IsName n) {out dest : String}
    (h : appendPieces relative out cs = .ok dest) :
    ∃ names : List String, (∀ n ∈ names, IsName n) ∧ dest = names.foldl join out := by
  induction cs generalizing out with
  | nil =>
      simp only [appendPieces, Except.ok.injEq] at h
      exact ⟨[], by simp, h.symm⟩
  | cons c rest ih =>
      have hrest : ∀ n, Component.normal n ∈ rest → IsName n :=
        fun n hn => hnames n (List.mem_cons_of_mem _ hn)
      cases c with
      | normal n =>
          obtain ⟨names, hall, rfl⟩ := ih hrest h
          refine ⟨n :: names, ?_, rfl⟩
          intro m hm
          rcases List.mem_cons.mp hm with rfl | hm
          · exact hnames m List.mem_cons_self
          · exact hall m hm
      | curDir => exact ih hrest h
      | parentDir => simp [appendPieces] at h
      | rootDir => simp [appendPieces] at h

/-- An accepted path is the project directory joined with names. -/
theorem resolve_ok {root projectId relative dest : String}
    (h : resolve root projectId relative = .ok dest) :
    ∃ names : List String, (∀ n ∈ names, IsName n) ∧
      dest = names.foldl join (join root projectId) := by
  unfold resolve at h
  split at h
  · exact appendPieces_ok (fun _ hn => isName_of_mem_components hn) h
  · cases h

/-- An accepted path other than the project directory is a base inside the project directory
joined with a last name. -/
theorem resolve_ok_last {root projectId relative dest : String}
    (h : resolve root projectId relative = .ok dest) (hbelow : dest ≠ join root projectId) :
    ∃ init : List String, ∃ n, IsName n ∧
      components (init.foldl join (join root projectId)) =
        components (join root projectId) ++ init.map .normal ∧
      dest = join (init.foldl join (join root projectId)) n := by
  obtain ⟨names, hnames, rfl⟩ := resolve_ok h
  -- no names would leave the project directory itself
  obtain ⟨init, n, rfl⟩ :=
    List.eq_nil_or_concat names |>.resolve_left (by rintro rfl; simp at hbelow)
  rw [List.concat_eq_append] at hnames ⊢
  have hinit : ∀ m ∈ init, IsName m := fun m hm => hnames m (List.mem_append_left _ hm)
  exact ⟨init, n, hnames n (by simp), components_foldl_join _ hinit, by simp⟩

end Project

namespace FsPath

/-- `p` lies inside `dir`, lexically: its pieces are those of `dir` followed by names only. -/
def Inside (dir p : String) : Prop :=
  ∃ names : List String, components p = components dir ++ names.map .normal

/-- Two paths overlap when one of them is, or lies inside, the other. -/
def Overlap (p q : String) : Prop :=
  components p <+: components q ∨ components q <+: components p

/-- A path inside a directory continues the directory's pieces. -/
theorem Inside.prefix {dir p : String} (h : Inside dir p) : components dir <+: components p := by
  obtain ⟨names, hp⟩ := h
  exact ⟨_, hp.symm⟩

/-- A path inside a directory holds a `..` piece only where the directory does. -/
theorem Inside.parentDir_mem {dir p : String} (h : Inside dir p)
    (hp : Component.parentDir ∈ components p) : Component.parentDir ∈ components dir := by
  obtain ⟨names, hnames⟩ := h
  rw [hnames, List.mem_append] at hp
  rcases hp with hp | hp
  · exact hp
  · simp at hp

/-- Pieces that are all names are the pieces of a list of names. -/
theorem exists_names {cs : List Component} (h : ∀ c ∈ cs, ∃ n, c = .normal n) :
    ∃ names : List String, cs = names.map .normal := by
  induction cs with
  | nil => exact ⟨[], rfl⟩
  | cons c rest ih =>
      obtain ⟨n, rfl⟩ := h c List.mem_cons_self
      obtain ⟨names, rfl⟩ := ih (fun d hd => h d (List.mem_cons_of_mem _ hd))
      exact ⟨n :: names, rfl⟩

/-- A path that continues a directory by pieces that are `..` or names lies inside it exactly
when none of them is `..`. -/
theorem inside_iff {dir p : String} {cs : List Component}
    (hcs : ∀ c ∈ cs, c = .parentDir ∨ ∃ n, c = .normal n)
    (hp : components p = components dir ++ cs) : Inside dir p ↔ .parentDir ∉ cs := by
  constructor
  · rintro ⟨names, hnames⟩
    rw [hp] at hnames
    rw [List.append_cancel_left hnames]
    simp
  · intro hnot
    have hall : ∀ c ∈ cs, ∃ n, c = .normal n := by
      intro c hc
      rcases hcs c hc with rfl | hn
      · exact absurd hc hnot
      · exact hn
    obtain ⟨names, rfl⟩ := exists_names hall
    exact ⟨names, hp⟩

end FsPath

namespace Chunk

theorem isName_part {n : String} (h : IsName n) : IsName (n ++ ".part") := by
  apply isName_of_two_lt_length
  · simp only [String.toList_append, List.mem_append, not_or]
    exact ⟨h.sep_not_mem, by decide⟩
  · have : ".part".length = 5 := by decide
    simp only [String.length_append]
    omega

/-- A chunk's file name has no separator: a number's digits are none. -/
theorem isName_chunk (index : Nat) : IsName ("chunk_" ++ toString index) :=
  isName_append_toString (by decide) (by decide) index

theorem frontLength_tmp (taskId : String) : frontLength (".tmp_" ++ taskId).toList = 0 := by
  simp [String.toList_append, frontLength, hasRoot, startsWithCurDir]

/-- The pieces of `.tmp_<id>` are `..` or names. -/
theorem mem_components_tmp {taskId : String} {c : Component}
    (h : c ∈ components (".tmp_" ++ taskId)) : c = .parentDir ∨ ∃ n, c = .normal n := by
  rw [components_of_frontLength_zero (frontLength_tmp taskId)] at h
  exact mem_pieces h

/-- The `.part` file of a path joined with a name is the name with `.part`, in the same base. -/
theorem components_partFor (base : String) {n : String} (h : IsName n) :
    components (partFor (join base n)) = components base ++ [.normal (n ++ ".part")] := by
  have hne : n ≠ "" := fun he => h.toList_ne_nil (by simp [he])
  rw [partFor, join_append base hne (hasRoot_of_frontLength_zero h.frontLength_eq_zero),
    components_join_name base (isName_part h)]

/-- The chunk directory of a path joined with a name is `.tmp_<id>` read as a path, in the same
base. -/
theorem components_dirFor (base : String) {n : String} (h : IsName n) (taskId : String) :
    components (dirFor (join base n) taskId) = components base ++ components (".tmp_" ++ taskId) := by
  obtain ⟨q, hq, hcomp⟩ := parent?_join_name base h
  rw [dirFor, hq, Option.getD_some, components_join q _ (frontLength_tmp taskId), hcomp,
    components_of_frontLength_zero (frontLength_tmp taskId)]

theorem components_fileAt (dir : String) (index : Nat) :
    components (fileAt dir index) = components dir ++ [.normal ("chunk_" ++ toString index)] :=
  components_join_name dir (isName_chunk index)

/-- A path that continues a directory by names, the pieces of `.tmp_<id>` and more names lies
inside it exactly when no piece of `.tmp_<id>` is `..`. -/
theorem inside_tmp_iff {dir p : String} (before after : List String) (taskId : String)
    (hp : components p = components dir ++
      (before.map .normal ++ components (".tmp_" ++ taskId) ++ after.map .normal)) :
    Inside dir p ↔ Component.parentDir ∉ components (".tmp_" ++ taskId) := by
  have hpieces : ∀ c ∈ before.map Component.normal ++ components (".tmp_" ++ taskId) ++
      after.map Component.normal, c = .parentDir ∨ ∃ m, c = .normal m := by
    intro c hc
    simp only [List.mem_append, List.mem_map] at hc
    rcases hc with (⟨m, -, rfl⟩ | hc) | ⟨m, -, rfl⟩
    · exact Or.inr ⟨m, rfl⟩
    · exact mem_components_tmp hc
    · exact Or.inr ⟨m, rfl⟩
  rw [inside_iff hpieces hp]
  simp

/-- The chunk directories of two ids beside one destination overlap exactly when the pieces of
one `.tmp_` path begin with those of the other. -/
theorem overlap_dirFor_iff (base : String) {n : String} (h : IsName n) (a b : String) :
    Overlap (dirFor (join base n) a) (dirFor (join base n) b) ↔
      components (".tmp_" ++ a) <+: components (".tmp_" ++ b) ∨
        components (".tmp_" ++ b) <+: components (".tmp_" ++ a) := by
  simp only [Overlap, components_dirFor base h, List.prefix_append_right_inj]

/-- Where neither chunk directory lies in the other, neither lies in the other's files. -/
theorem not_overlap_fileAt (base : String) {n : String} (h : IsName n) {a b : String}
    (hab : ¬ components (".tmp_" ++ a) <+: components (".tmp_" ++ b))
    (hba : ¬ components (".tmp_" ++ b) <+: components (".tmp_" ++ a)) (index : Nat) :
    ¬ Overlap (dirFor (join base n) a) (fileAt (dirFor (join base n) b) index) := by
  simp only [Overlap, components_fileAt, components_dirFor base h, List.append_assoc,
    List.prefix_append_right_inj]
  rintro (hpre | hpre)
  · -- a directory inside a file of the other id is that id's directory or lies inside it
    rcases List.prefix_concat_iff.mp hpre with heq | hpre
    · exact hba (heq ▸ List.prefix_append _ _)
    · exact hab hpre
  · exact hba ((List.prefix_append _ _).trans hpre)

end Chunk

/-- Where a task's files lie. For a destination the resolver accepts other than the project
directory itself, the destination and its `.part` file lie inside the project directory; the
chunk directory and the chunk files of an id lie inside it exactly when no piece of `.tmp_<id>`
is `..`; and the chunk directories and files of two ids keep apart exactly when neither id's
`.tmp_` path begins, piece by piece, with the other's. -/
theorem task_files_private_iff {root projectId relative dest : String}
    (h : Project.resolve root projectId relative = .ok dest)
    (hbelow : dest ≠ join root projectId) (a b : String) :
    Inside (join root projectId) dest ∧ Inside (join root projectId) (Chunk.partFor dest) ∧
      ((Inside (join root projectId) (Chunk.dirFor dest a) ∧
          ∀ i, Inside (join root projectId) (Chunk.fileAt (Chunk.dirFor dest a) i)) ↔
        Component.parentDir ∉ components (".tmp_" ++ a)) ∧
      ((¬ Overlap (Chunk.dirFor dest a) (Chunk.dirFor dest b) ∧
          ∀ i, ¬ Overlap (Chunk.dirFor dest a) (Chunk.fileAt (Chunk.dirFor dest b) i) ∧
            ¬ Overlap (Chunk.dirFor dest b) (Chunk.fileAt (Chunk.dirFor dest a) i)) ↔
        ¬ components (".tmp_" ++ a) <+: components (".tmp_" ++ b) ∧
          ¬ components (".tmp_" ++ b) <+: components (".tmp_" ++ a)) := by
  obtain ⟨init, n, hn, hbase, rfl⟩ := Project.resolve_ok_last h hbelow
  generalize init.foldl join (join root projectId) = base at hbase ⊢
  refine ⟨⟨init ++ [n], ?_⟩, ⟨init ++ [n ++ ".part"], ?_⟩, ?_, ?_⟩
  · rw [components_join_name base hn, hbase]
    simp
  · rw [Chunk.components_partFor base hn, hbase]
    simp
  · -- after the project directory come the base's names, `.tmp_<id>`, and a chunk file's name
    have hfile : ∀ i, Inside (join root projectId) (Chunk.fileAt (Chunk.dirFor (join base n) a) i) ↔
        Component.parentDir ∉ components (".tmp_" ++ a) := fun i =>
      Chunk.inside_tmp_iff init ["chunk_" ++ toString i] a (by
        rw [Chunk.components_fileAt, Chunk.components_dirFor base hn, hbase]
        simp)
    rw [Chunk.inside_tmp_iff init [] a (by rw [Chunk.components_dirFor base hn, hbase]; simp)]
    simp only [hfile, forall_const, and_self]
  · rw [Chunk.overlap_dirFor_iff base hn]
    constructor
    · rintro ⟨hdirs, -⟩
      exact not_or.mp hdirs
    · rintro ⟨hab, hba⟩
      exact ⟨not_or.mpr ⟨hab, hba⟩, fun i =>
        ⟨Chunk.not_overlap_fileAt base hn hab hba i, Chunk.not_overlap_fileAt base hn hba hab i⟩⟩

theorem task_files_private_iff_at_data :
    Project.resolve "r" "p1" "/data.bin" = .ok "r/p1/data.bin" ∧
      "r/p1/data.bin" ≠ join "r" "p1" ∧
      Inside (join "r" "p1") "r/p1/data.bin" ∧ Inside (join "r" "p1") (Chunk.partFor "r/p1/data.bin") ∧
      ((Inside (join "r" "p1") (Chunk.dirFor "r/p1/data.bin" "t1") ∧
          ∀ i, Inside (join "r" "p1") (Chunk.fileAt (Chunk.dirFor "r/p1/data.bin" "t1") i)) ↔
        Component.parentDir ∉ components (".tmp_" ++ "t1")) ∧
      ((¬ Overlap (Chunk.dirFor "r/p1/data.bin" "t1") (Chunk.dirFor "r/p1/data.bin" "t2") ∧
          ∀ i, ¬ Overlap (Chunk.dirFor "r/p1/data.bin" "t1")
              (Chunk.fileAt (Chunk.dirFor "r/p1/data.bin" "t2") i) ∧
            ¬ Overlap (Chunk.dirFor "r/p1/data.bin" "t2")
              (Chunk.fileAt (Chunk.dirFor "r/p1/data.bin" "t1") i)) ↔
        ¬ components (".tmp_" ++ "t1") <+: components (".tmp_" ++ "t2") ∧
          ¬ components (".tmp_" ++ "t2") <+: components (".tmp_" ++ "t1")) := by
  have hres : Project.resolve "r" "p1" "/data.bin" = .ok "r/p1/data.bin" := by rfl
  exact ⟨hres, by decide, task_files_private_iff hres (by decide) "t1" "t2"⟩

/-- Three ways a task's files leave its project or meet another task's: the id `x/../../p2`
climbs out of project `p1` into `p2`; the chunk directory of `a/b` lies inside that of `a`;
and the empty file name resolves to the project directory itself, whose `.part` file and
chunk directory lie beside it, outside the project. -/
theorem task_files_escape :
    Project.resolve "r" "p1" "/data.bin" = .ok "r/p1/data.bin" ∧
      ¬ Inside (join "r" "p1") (Chunk.dirFor "r/p1/data.bin" "x/../../p2") ∧
      Overlap (Chunk.dirFor "r/p1/data.bin" "a") (Chunk.dirFor "r/p1/data.bin" "a/b") ∧
      Project.resolve "r" "p1" (Controller.joinRel "/" "") = .ok "r/p1" ∧
      ¬ Inside (join "r" "p1") (Chunk.partFor "r/p1") ∧
      ¬ Inside (join "r" "p1") (Chunk.dirFor "r/p1" "t1") := by
  refine ⟨by rfl, fun h => ?_, by unfold Overlap; decide, by rfl, fun h => ?_, fun h => ?_⟩
  · -- the chunk directory holds `..`, the project directory does not
    have := h.parentDir_mem (by decide)
    revert this
    decide
  · have := h.prefix
    revert this
    decide
  · have := h.prefix
    revert this
    decide

end DownloadEngine
