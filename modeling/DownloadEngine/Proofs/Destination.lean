import DownloadEngine.Proofs.ProjectResolve

/-!
# Where a run puts a task's file

A run resolves its task's destination from the project, the destination directory and a file
name: the caller's, or one derived from the address and the probe's suggestion. It asks the
project resolver for `<directory>/<name>`, the directory's trailing slashes dropped. A start
accepts a task only when its directory resolves, and its caller name in that directory too, so
the run is never refused a path.

A derived name is sanitised into one name, so the run's path is the directory's path joined with
that name. A caller's name is not sanitised: the run's path is the directory's path followed by
the name's segments that are neither empty nor `.`. A caller name with no such segment, such as
the empty name, puts the file at the directory itself (`empty_name_resolves_to_directory`).

## Main statements

* `Filename.isName_derive`: a derived name is one name.
* `Project.resolve_joinRel`: resolving a name in an accepted directory continues the directory's
  path by the name's segments.
* `Controller.resolveDestination_agrees`: where a run puts a task that the start accepted.
-/

namespace DownloadEngine

open FsPath

namespace Filename

theorem sep_not_mem_replaceUnsafe (prev : Option Char) (cs : List Char) :
    '/' ∉ replaceUnsafe prev cs := by
  induction cs generalizing prev with
  | nil => simp [replaceUnsafe]
  | cons c cs ih =>
    unfold replaceUnsafe
    split
    · -- an unsafe character leaves at most one `_`
      split
      · exact ih prev
      · simp only [List.mem_cons, not_or]
        exact ⟨by decide, ih _⟩
    · next hc =>
      simp only [List.mem_cons, not_or]
      exact ⟨fun h => hc (h ▸ (by decide : isUnsafe '/' = true)), ih _⟩

/-- Cutting edge characters from both ends keeps a prefix of what is left once the leading ones
are cut. -/
theorem trimEdges_prefix_dropWhile (cs : List Char) : trimEdges cs <+: cs.dropWhile isEdge := by
  unfold trimEdges
  have h := List.reverse_prefix.mpr
    (List.dropWhile_suffix isEdge (l := (cs.dropWhile isEdge).reverse))
  rwa [List.reverse_reverse] at h

theorem takeBytes_prefix_self (budget : Nat) (cs : List Char) : takeBytes budget cs <+: cs := by
  induction cs generalizing budget with
  | nil => exact List.nil_prefix
  | cons c cs ih =>
    unfold takeBytes
    split
    · exact List.cons_prefix_cons.mpr ⟨rfl, ih _⟩
    · exact List.nil_prefix

/-- A sanitised name is a prefix of the name's safe form with its leading edge characters cut. -/
theorem sanitize_prefix_safe (name : String) :
    (sanitize name).toList <+: (replaceUnsafe none name.toList).dropWhile isEdge := by
  rw [sanitize, String.toList_ofList]
  exact (takeBytes_prefix_self _ _).trans (trimEdges_prefix_dropWhile _)

/-- A sanitised name that is not empty is one name: it has no separator, and it starts with no
dot, so it is neither `.` nor `..`. -/
theorem isName_sanitize {name : String} (h : sanitize name ≠ "") : IsName (sanitize name) := by
  have hpre := sanitize_prefix_safe name
  have hsep : '/' ∉ (sanitize name).toList := fun hm =>
    sep_not_mem_replaceUnsafe none name.toList ((List.dropWhile_suffix isEdge).subset (hpre.subset hm))
  refine ⟨hsep, ?_⟩
  obtain ⟨c, rest, hcr⟩ :=
    List.exists_cons_of_ne_nil (by simpa using h : (sanitize name).toList ≠ [])
  -- the first character is where the cut of edge characters stopped
  have hc : isEdge c = false := by
    obtain ⟨t, ht⟩ := hpre
    have hx : (replaceUnsafe none name.toList).dropWhile isEdge ≠ [] := by
      rw [← ht, hcr]
      simp
    have hhead := List.head_dropWhile_not isEdge hx
    simp only [← ht, hcr, List.cons_append, List.head_cons] at hhead
    exact hhead
  have hdot : c ≠ '.' := fun hd => by simp [hd, isEdge] at hc
  have hseg : segmentComponent (c :: rest) = some (.normal (String.ofList (c :: rest))) := by
    simp [segmentComponent, hdot]
  rw [hcr, hseg, ← hcr, String.ofList_toList]

/-- The time-based name is one name: a number's digits hold no separator. -/
theorem isName_fallback (secs : Nat) : IsName (fallback secs) :=
  isName_append_toString (by decide) (by decide) secs

theorem exists_sanitize_of_getD_ne {o : Option String} (h : (o.map sanitize).getD "" ≠ "") :
    ∃ raw, (o.map sanitize).getD "" = sanitize raw := by
  cases o with
  | none => simp at h
  | some raw => exact ⟨raw, rfl⟩

/-- A suggested name is kept only as a sanitised name that is not empty. -/
theorem derive?_eq_some {url : String} {hint : Option String} {name : String}
    (h : derive? url hint = some name) : ∃ raw, name = sanitize raw ∧ name ≠ "" := by
  unfold derive? at h
  dsimp only at h
  obtain ⟨hc, hname⟩ := Option.ite_none_left_eq_some.mp h
  obtain rfl := Option.some.inj hname
  have hne := fun he => hc (Or.inl he)
  obtain ⟨raw, hraw⟩ := exists_sanitize_of_getD_ne hne
  exact ⟨raw, hraw, hne⟩

/-- A derived name is one name: a sanitised suggestion or the time-based name. -/
theorem isName_derive (url : String) (hint : Option String) (secs : Nat) :
    IsName (derive url hint secs) := by
  unfold derive
  cases h : derive? url hint with
  | none => exact isName_fallback secs
  | some name =>
    obtain ⟨raw, rfl, hne⟩ := derive?_eq_some h
    exact isName_sanitize hne

end Filename

namespace FileTree

theorem pieces_append_sep (a b : String) : pieces (a ++ "/" ++ b) = pieces a ++ pieces b := by
  have hsep : (a ++ "/" ++ b).toList = a.toList ++ '/' :: b.toList := by
    simp [String.toList_append]
  simp only [pieces, hsep, List.splitOn_append_cons_self, List.map_append, List.filter_append]

/-- Separators at the end of a path add no segment. -/
theorem pieces_append_seps (u v : List Char) (hv : ∀ c ∈ v, c = '/') :
    pieces (String.ofList (u ++ v)) = pieces (String.ofList u) := by
  induction v generalizing u with
  | nil => simp
  | cons c v ih =>
    obtain rfl := hv c List.mem_cons_self
    have hrest : pieces (String.ofList v) = [] := by
      have hnil : pieces "" = [] := rfl
      simpa [hnil] using ih [] fun d hd => hv d (List.mem_cons_of_mem _ hd)
    have hjoin : String.ofList (u ++ '/' :: v) = String.ofList u ++ "/" ++ String.ofList v := by
      simp [String.ofList_append, String.append_assoc]
    rw [hjoin, pieces_append_sep, hrest, List.append_nil]

/-- Dropping a path's trailing separators keeps its segments. -/
theorem pieces_dropTrailing (d : String) :
    pieces (String.ofList (d.toList.reverse.dropWhile (· == '/')).reverse) = pieces d := by
  have hsplit : d.toList = (d.toList.reverse.dropWhile (· == '/')).reverse ++
      (d.toList.reverse.takeWhile (· == '/')).reverse := by
    rw [← List.reverse_append, List.takeWhile_append_dropWhile, List.reverse_reverse]
  have h := pieces_append_seps (d.toList.reverse.dropWhile (· == '/')).reverse
    (d.toList.reverse.takeWhile (· == '/')).reverse fun c hc => by
      simpa using List.mem_takeWhile_imp (List.mem_reverse.mp hc)
  rwa [← hsplit, String.ofList_toList, eq_comm] at h

/-- A name is its only segment. -/
theorem pieces_of_isName {n : String} (h : IsName n) : pieces n = [n] := by
  have hne : n ≠ "" := fun he => h.toList_ne_nil (by simp [he])
  simp [pieces, List.splitOn_eq_singleton h.sep_not_mem, hne]

end FileTree

namespace Controller

/-- The segments of `<directory>/<name>` are the directory's followed by the name's. -/
theorem pieces_joinRel (dir name : String) :
    FileTree.pieces (joinRel dir name) = FileTree.pieces dir ++ FileTree.pieces name := by
  rw [joinRel, FileTree.pieces_append_sep, FileTree.pieces_dropTrailing]

end Controller

namespace Project

/-- Resolving a name in a directory that resolves continues the directory's path by the name's
segments that are neither empty nor `.`, and refuses a name with a `..` segment. -/
theorem resolve_joinRel {root projectId dir r : String} (h : resolve root projectId dir = .ok r)
    (name : String) :
    resolve root projectId (Controller.joinRel dir name) =
      if ".." ∈ FileTree.pieces name then .error (.traversal (Controller.joinRel dir name))
      else .ok (((FileTree.pieces name).filter (· ≠ ".")).foldl join r) := by
  have hs : isSingleName projectId = true := by
    cases hs : isSingleName projectId
    · simp [resolve, hs] at h
    · rfl
  rw [resolve_of_isSingleName root hs] at h ⊢
  have hd : ".." ∉ FileTree.pieces dir := fun hm => by simp [hm] at h
  rw [if_neg hd, Except.ok.injEq] at h
  subst h
  simp [Controller.pieces_joinRel, hd, List.filter_append, List.foldl_append]

/-- A name's path in a directory that resolves is the directory's path joined with the name. -/
theorem resolve_joinRel_name {root projectId dir r n : String}
    (h : resolve root projectId dir = .ok r) (hn : IsName n) :
    resolve root projectId (Controller.joinRel dir n) = .ok (join r n) := by
  have hdot : n ≠ "." := fun he => by simpa [he, segmentComponent] using hn.segment
  have hdots : n ≠ ".." := fun he => by simpa [he, segmentComponent] using hn.segment
  rw [resolve_joinRel h, FileTree.pieces_of_isName hn]
  simp [hdot, Ne.symm hdots]

end Project

namespace Controller

section Destination

variable {σ : Type} (setup : Setup) (now : Moment) (info : ProbeInfo) (e : Entry) (w : World σ)

/-- Once the project path of the task's name resolves, the run's destination is that path, with
the directory above it created. -/
theorem resolveDestination_of_resolve {path : String}
    (h : Project.resolve setup.config.projectsRoot e.task.projectId (joinRel e.task.destinationPath
      (e.task.filename.getD (Filename.derive e.task.url info.filename now.secs))) = .ok path) :
    resolveDestination setup now info e w =
      (match FsPath.parent? path with
        | some parent => (w.files.createDirAll parent).mapError EngineError.io
        | none => pure w.files).map fun files =>
          (e.setDestination (e.task.filename.getD (Filename.derive e.task.url info.filename now.secs))
            path, { w with files }, path) := by
  unfold resolveDestination
  simp only [h, Except.mapError, bind, Except.bind]
  cases FsPath.parent? path with
  | none => rfl
  | some parent => cases w.files.createDirAll parent <;> rfl

/-- Once the project path of the task's name resolves, the run either fails to create the
directory above it or answers that path. -/
theorem resolveDestination_answers {path : String}
    (h : Project.resolve setup.config.projectsRoot e.task.projectId (joinRel e.task.destinationPath
      (e.task.filename.getD (Filename.derive e.task.url info.filename now.secs))) = .ok path) :
    (∃ ioe, resolveDestination setup now info e w = .error (.io ioe)) ∨
      ∃ x, resolveDestination setup now info e w = .ok x ∧ x.2.2 = path := by
  rw [resolveDestination_of_resolve setup now info e w h]
  cases FsPath.parent? path with
  | none => exact .inr ⟨_, rfl, rfl⟩
  | some parent =>
    cases hc : w.files.createDirAll parent with
    | error ioe => exact .inl ⟨ioe, by simp [hc, Except.mapError, Except.map]⟩
    | ok files =>
      refine .inr ⟨(e.setDestination (e.task.filename.getD
        (Filename.derive e.task.url info.filename now.secs)) path, { w with files }, path), ?_, rfl⟩
      simp [hc, Except.mapError, Except.map]

/-- Where a run puts a task that the start accepted: its directory resolves, and so does its
caller name, if any, in that directory. The run is never refused a path. Its destination is the
directory's path followed by the name's segments that are neither empty nor `.`; a derived name
is one name, and the destination is then the directory's path joined with it. -/
theorem resolveDestination_agrees {dir : String}
    (hdir : Project.resolve setup.config.projectsRoot e.task.projectId e.task.destinationPath =
      .ok dir)
    (hname : ∀ n, e.task.filename = some n → ∃ q, Project.resolve setup.config.projectsRoot
      e.task.projectId (joinRel e.task.destinationPath n) = .ok q) :
    ∃ path, Project.resolve setup.config.projectsRoot e.task.projectId (joinRel e.task.destinationPath
        (e.task.filename.getD (Filename.derive e.task.url info.filename now.secs))) = .ok path ∧
      (∀ err, resolveDestination setup now info e w ≠ .error (.pathRejected err)) ∧
      (∀ r, resolveDestination setup now info e w = .ok r → r.2.2 = path) ∧
      components path = components dir ++ ((FileTree.pieces
        (e.task.filename.getD (Filename.derive e.task.url info.filename now.secs))).filter
          (· ≠ ".")).map .normal ∧
      (e.task.filename = none →
        IsName (Filename.derive e.task.url info.filename now.secs) ∧
          path = join dir (Filename.derive e.task.url info.filename now.secs)) := by
  generalize hn : e.task.filename.getD (Filename.derive e.task.url info.filename now.secs) = name
  -- the name resolves: the caller's because the start checked it, a derived one as one name
  have hok : ∃ q, Project.resolve setup.config.projectsRoot e.task.projectId
      (joinRel e.task.destinationPath name) = .ok q := by
    cases hf : e.task.filename with
    | some n =>
      rw [hf, Option.getD_some] at hn
      exact hn ▸ hname n hf
    | none =>
      rw [hf, Option.getD_none] at hn
      exact ⟨_, hn ▸ Project.resolve_joinRel_name hdir (Filename.isName_derive _ _ _)⟩
  obtain ⟨path, hpath⟩ := hok
  -- the resolved name has no `..`, so its path continues the directory's by names
  have hdots : ".." ∉ FileTree.pieces name := fun hm => by
    rw [Project.resolve_joinRel hdir, if_pos hm] at hpath
    cases hpath
  have hjoin := Project.resolve_joinRel hdir name
  rw [if_neg hdots, hpath, Except.ok.injEq] at hjoin
  have hnames : ∀ m ∈ (FileTree.pieces name).filter (· ≠ "."), IsName m := by
    intro m hm
    obtain ⟨hp, hdot⟩ := List.mem_filter.mp hm
    exact isName_of_mem_pieces hp (by simpa using hdot) (fun h => hdots (h ▸ hp))
  refine ⟨path, hpath, ?_, ?_, ?_, ?_⟩
  · intro err herr
    rcases resolveDestination_answers setup now info e w (hn ▸ hpath) with ⟨ioe, hio⟩ | ⟨x, hx, -⟩
    · rw [hio] at herr
      cases herr
    · rw [hx] at herr
      cases herr
  · intro r hr
    rcases resolveDestination_answers setup now info e w (hn ▸ hpath) with ⟨ioe, hio⟩ | ⟨x, hx, hpx⟩
    · rw [hio] at hr
      cases hr
    · rw [hx, Except.ok.injEq] at hr
      exact hr ▸ hpx
  · rw [hjoin, components_foldl_join _ hnames]
  · intro hf
    rw [hf, Option.getD_none] at hn
    subst hn
    have hname' := Filename.isName_derive e.task.url info.filename now.secs
    refine ⟨hname', ?_⟩
    have := Project.resolve_joinRel_name hdir hname'
    rw [hpath, Except.ok.injEq] at this
    exact this

end Destination

/-- A task of project `p1` in the directory `/raw` with no caller name: the start accepts the
directory, and the run puts the task at the directory's path joined with the derived name. -/
theorem resolveDestination_agrees_at_raw :
    Project.resolve "r" "p1" "/raw" = .ok "r/p1/raw" ∧
      ∃ path, Project.resolve "r" "p1"
          (joinRel "/raw" (Filename.derive "http://h/reads.fq" none 0)) = .ok path ∧
        (∀ err, resolveDestination ⟨{ Config.default with projectsRoot := "r" }, .default, 1⟩ 0
          .degraded ⟨Task.new "t1" "http://h/reads.fq" "p1" "/raw" none true 0, none, none,
            Tracker.start ⟨0⟩ 0 0, .root 0, [], none⟩ (⟨.empty, (), []⟩ : World Unit) ≠
              .error (.pathRejected err)) ∧
        (∀ r, resolveDestination ⟨{ Config.default with projectsRoot := "r" }, .default, 1⟩ 0
          .degraded ⟨Task.new "t1" "http://h/reads.fq" "p1" "/raw" none true 0, none, none,
            Tracker.start ⟨0⟩ 0 0, .root 0, [], none⟩ (⟨.empty, (), []⟩ : World Unit) = .ok r →
              r.2.2 = path) ∧
        components path = components "r/p1/raw" ++ ((FileTree.pieces
          (Filename.derive "http://h/reads.fq" none 0)).filter (· ≠ ".")).map .normal ∧
        ((none : Option String) = none →
          IsName (Filename.derive "http://h/reads.fq" none 0) ∧
            path = join "r/p1/raw" (Filename.derive "http://h/reads.fq" none 0)) := by
  have hdir : Project.resolve "r" "p1" "/raw" = .ok "r/p1/raw" := by decide
  exact ⟨hdir, resolveDestination_agrees ⟨{ Config.default with projectsRoot := "r" }, .default, 1⟩
    0 .degraded ⟨Task.new "t1" "http://h/reads.fq" "p1" "/raw" none true 0, none, none,
      Tracker.start ⟨0⟩ 0 0, .root 0, [], none⟩ (⟨.empty, (), []⟩ : World Unit) hdir
      (fun n hn => by cases hn)⟩

/-- The caller's name `""` passes the start's checks, and the run puts the task's file at the
destination directory itself, not below it. -/
theorem empty_name_resolves_to_directory :
    Project.resolve "r" "p1" "/" = .ok "r/p1" ∧
      Project.resolve "r" "p1" (joinRel "/" "") = .ok "r/p1" ∧
      (resolveDestination ⟨{ Config.default with projectsRoot := "r" }, .default, 1⟩ 0 .degraded
        ⟨Task.new "t1" "http://h/reads.fq" "p1" "/" (some "") true 0, none, none,
          Tracker.start ⟨0⟩ 0 0, .root 0, [], none⟩ (⟨.empty, (), []⟩ : World Unit)).map (·.2.2) =
        .ok "r/p1" := by
  refine ⟨by decide, by decide, ?_⟩
  rfl

end Controller

end DownloadEngine
