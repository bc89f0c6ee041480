import LiveCheck.Proofs.Discovery.Order
import LiveCheck.Proofs.Disk.Unlinked

/-!
# Files that were never saved

A file that is only in a buffer comes into a walk through the listing of its own directory, and a
walk goes from one directory on the disk to the next.  Without links and closed directories each
directory beneath a root is reached, since a way leads down to it name by name
(`Workspace.exists_way`).  So a buffer beneath the root is found if and only if its directory is on
the disk (`Workspace.unsaved_found_iff`).  Nothing lists the directories that only a buffer has in
its path: a new file in a new folder is missed (`Workspace.new_folder_missed`).

The components of a path do not say whether it begins with one slash or with two.  What is listed in
a directory begins as the directory does (`Path.isPlain_directory`), so a root and a buffer that
begin differently never meet.
-/

namespace LiveCheck

open Program (Runs)

namespace Path

variable {cwd path root : String} {names : List (List Char)} {name : List Char}

/-! ### Paths beneath a root -/

/-- The path stands beneath the root, and not at it. -/
def IsBeneath (cwd path root : String) : Prop :=
  ∃ names, names ≠ [] ∧ parts cwd path = parts cwd root ++ names

/-- Two paths begin with as many slashes, one or two. -/
def SameStart (cwd path root : String) : Prop := IsPlain cwd path ↔ IsPlain cwd root

instance (cwd path root : String) : Decidable (SameStart cwd path root) :=
  inferInstanceAs (Decidable (_ ↔ _))

/-- The normal path that has these names behind those of another one. -/
def extend (cwd path : String) (names : List (List Char)) : String :=
  String.ofList (render (leadingSlashes (normalizeChars cwd.toList path.toList))
    (parts cwd path ++ names))

/-- Names that come behind a path are components of a path. -/
theorem isComponent_of_mem_append (named : ∀ p ∈ names, IsComponent p) :
    ∀ p ∈ parts cwd path ++ names, IsComponent p := by
  intro p hp
  rcases List.mem_append.1 hp with hp | hp
  · exact isComponent_of_mem_parts p hp
  · exact named p hp

/-- Without names it is the normal form. -/
theorem extend_nil (cwd path : String) : extend cwd path [] = normalize cwd path := by
  unfold extend
  rw [List.append_nil, ← normalizeChars_eq]
  rfl

/-- One more name is joined to it. -/
theorem extend_concat (named : ∀ p ∈ names, IsComponent p) (hname : IsComponent name) :
    extend cwd path (names ++ [name]) = join (extend cwd path names) (String.ofList name) := by
  unfold extend join
  rw [String.toList_ofList, String.toList_ofList, ← List.append_assoc,
    joinChars_render (leadingSlashes_eq _) (isComponent_of_mem_append named) hname]

/-- It is normal. -/
theorem normalize_extend (named : ∀ p ∈ names, IsComponent p) :
    normalize cwd (extend cwd path names) = extend cwd path names :=
  normalize_render cwd (leadingSlashes_eq _) (isComponent_of_mem_append named)

/-- It has all the names. -/
theorem parts_extend (named : ∀ p ∈ names, IsComponent p) :
    parts cwd (extend cwd path names) = parts cwd path ++ names :=
  parts_render cwd (leadingSlashes_eq _) (isComponent_of_mem_append named)

/-- Its directory is the one with the last name left out. -/
theorem directory_extend (named : ∀ p ∈ names, IsComponent p) (hname : IsComponent name) :
    Path.directory (extend cwd path (names ++ [name])) = extend cwd path names := by
  unfold extend Path.directory
  rw [String.toList_ofList, ← List.append_assoc,
    directoryChars_render (leadingSlashes_eq _) (isComponent_of_mem_append named) hname]

/-- A normal path beneath a root is the root with further names, if both begin alike. -/
theorem IsBeneath.exists_extend (beneath : IsBeneath cwd path root)
    (normal : normalize cwd path = path) (same : SameStart cwd path root) :
    ∃ names name, (∀ p ∈ names, IsComponent p) ∧ IsComponent name ∧
      path = extend cwd root (names ++ [name]) := by
  obtain ⟨all, some, split⟩ := beneath
  obtain ⟨names, name, rfl⟩ := (List.eq_nil_or_concat all).resolve_left some
  rw [List.concat_eq_append] at split
  have named : ∀ p ∈ names ++ [name], IsComponent p :=
    fun p hp => isComponent_of_mem_parts p (split ▸ List.mem_append_right _ hp)
  have slashes : leadingSlashes (normalizeChars cwd.toList path.toList) =
      leadingSlashes (normalizeChars cwd.toList root.toList) := by
    have one := leadingSlashes_eq (normalizeChars cwd.toList path.toList)
    have other := leadingSlashes_eq (normalizeChars cwd.toList root.toList)
    unfold SameStart IsPlain at same
    omega
  have whole : path = extend cwd root (names ++ [name]) := by
    unfold extend
    rw [← split, ← slashes, ← normalizeChars_eq]
    exact normal.symm
  exact ⟨names, name, fun p hp => named p (List.mem_append_left _ hp),
    named name (List.mem_append_right _ List.mem_cons_self), whole⟩

/-! ### How a path begins -/

/-- A path that is put together begins as it was put together. -/
theorem isPlain_render {n : Nat} {cs : List (List Char)} (hn : n = 1 ∨ n = 2)
    (named : ∀ p ∈ cs, IsComponent p) : IsPlain cwd (String.ofList (render n cs)) ↔ n = 1 := by
  unfold IsPlain
  rw [← toList_normalize, normalize_render cwd hn named, String.toList_ofList,
    leadingSlashes_render named hn]

/-- A normal path begins as its directory does. -/
theorem isPlain_directory (normal : normalize cwd path = path) :
    IsPlain cwd (Path.directory path) ↔ IsPlain cwd path := by
  obtain ⟨n, cs, hn, named, chars⟩ := exists_render cwd path
  have whole : path = String.ofList (render n cs) := by
    rw [← chars, normal, String.ofList_toList]
  unfold Path.directory
  rw [whole, String.toList_ofList, isPlain_render hn named]
  rcases List.eq_nil_or_concat cs with rfl | ⟨before, name, rfl⟩
  · have root : directoryChars (render n []) = render n [] := by
      rcases hn with rfl | rfl <;> rfl
    rw [root, isPlain_render hn named]
  · rw [List.concat_eq_append] at named ⊢
    have above : ∀ p ∈ before, IsComponent p := fun p hp => named p (List.mem_append_left _ hp)
    have hname : IsComponent name := named name (List.mem_append_right _ List.mem_cons_self)
    rw [directoryChars_render hn above hname, isPlain_render hn above]

end Path

namespace Disk

variable {d : Disk} {cwd path : String}

/-- The real path of a directory has the components of its path. -/
theorem Unlinked.realPath_eq (unlinked : d.Unlinked) (there : d.isDirectory cwd path = true) :
    d.realPath cwd path = pathOf (Path.parts cwd path) := by
  obtain ⟨place, leads, -, stands⟩ := exists_realPath there
  rw [(unlinked.entry?_parts there).1] at leads
  rw [stands, Option.some.inj leads]

/-- Directories with the same real path have the same components. -/
theorem Unlinked.parts_eq_of_realPath (unlinked : d.Unlinked) {path' : String}
    (there : d.isDirectory cwd path = true) (there' : d.isDirectory cwd path' = true)
    (same : d.realPath cwd path = d.realPath cwd path') :
    Path.parts cwd path = Path.parts cwd path' := by
  rw [unlinked.realPath_eq there, unlinked.realPath_eq there'] at same
  exact Path.render_injective Path.isComponent_of_mem_parts Path.isComponent_of_mem_parts
    (String.ofList_injective same : Path.render 1 _ = Path.render 1 _)

end Disk

namespace Workspace

variable {w : Workspace} {access : Access} {start directory : String}

/-! ### Ways down to a directory -/

/-- What is a directory on the disk is one on the terrain. -/
theorem isDirectory_terrain (proper : w.Proper) (path : String) :
    (w.terrain proper access).isDirectory path = w.disk.isDirectory w.cwd path := rfl

/-- Without links every way is a route. -/
theorem route_of_way (proper : w.Proper) (unlinked : w.disk.Unlinked) {above : List String}
    (way : (w.terrain proper access).Way start above) :
    (w.terrain proper access).Route ∅ start above := by
  have keys : (above.map (w.terrain proper access).key).Nodup := by
    apply List.Nodup.of_map (fun key => Disk.pathOf (Path.parts w.cwd key))
    have reals : (above.map (w.terrain proper access).key).map
        (fun key => Disk.pathOf (Path.parts w.cwd key)) =
          above.map (w.terrain proper access).realPath := by
      rw [List.map_map]
      apply List.map_congr_left
      intro upper mem
      have real := unlinked.realPath_eq (way.isDirectory_of_mem mem)
      exact (congrArg Disk.pathOf (Path.parts_normalize w.cwd upper)).trans real.symm
    rw [reals]
    exact way.nodup
  exact ⟨way, fun _ _ => Set.notMem_empty _, keys⟩

/-- A directory lists the directories in it. -/
theorem lists_directory (proper : w.Proper) (unlinked : w.disk.Unlinked)
    (readable : ∀ path, access.closed path = false) {name : Name} (hname : Path.IsComponent name)
    (there : w.disk.isDirectory w.cwd
      (Path.join (Path.normalize w.cwd directory) (String.ofList name)) = true) :
    (w.terrain proper access).Lists directory
      (Path.join (Path.normalize w.cwd directory) (String.ofList name)) := by
  obtain ⟨leads, here⟩ := unlinked.entry?_parts (unlinked.isDirectory_of_join hname there)
  have inside := (unlinked.entry?_parts there).2
  rw [Path.parts_normalize] at leads here
  rw [Path.parts_join hname] at inside
  refine (lists_terrain proper).2 ⟨readable _, Documents.mem_children.2 ⟨_, leads, here, ?_⟩⟩
  refine Or.inl ⟨name, ?_, rfl⟩
  rw [inside]
  exact Option.some_ne_none _

/-- A way leads down to each directory beneath the one where it starts, and no directory on it has
more components than the last one. -/
theorem exists_way (proper : w.Proper) (unlinked : w.disk.Unlinked)
    (readable : ∀ path, access.closed path = false)
    (there : w.disk.isDirectory w.cwd start = true) {names : List Name}
    (named : ∀ p ∈ names, Path.IsComponent p)
    (below : w.disk.isDirectory w.cwd (Path.extend w.cwd start names) = true) :
    ∃ directory above, (w.terrain proper access).Way start (directory :: above) ∧
      Path.normalize w.cwd directory = Path.extend w.cwd start names ∧
        ∀ upper ∈ directory :: above,
          (Path.parts w.cwd upper).length ≤ (Path.parts w.cwd start ++ names).length := by
  induction names using List.reverseRecOn with
  | nil =>
    refine ⟨start, [], .down .nil rfl there List.not_mem_nil, ?_, ?_⟩
    · exact (Path.extend_nil w.cwd start).symm
    · intro upper mem
      rw [List.mem_singleton.1 mem, List.append_nil]
  | append_singleton names name ih =>
    have hname : Path.IsComponent name :=
      named name (List.mem_append_right _ List.mem_cons_self)
    have before : ∀ p ∈ names, Path.IsComponent p :=
      fun p hp => named p (List.mem_append_left _ hp)
    have length : (Path.parts w.cwd (Path.extend w.cwd start (names ++ [name]))).length =
        (Path.parts w.cwd start ++ names).length + 1 := by
      rw [Path.parts_extend named, ← List.append_assoc, List.length_append, List.length_singleton]
    have parent : w.disk.isDirectory w.cwd (Path.extend w.cwd start names) = true := by
      rw [← Path.normalize_extend before]
      apply unlinked.isDirectory_of_join hname
      rw [Path.normalize_extend before, ← Path.extend_concat before hname]
      exact below
    obtain ⟨directory, above, way, key, short⟩ := ih before parent
    have child : Path.extend w.cwd start (names ++ [name]) =
        Path.join (Path.normalize w.cwd directory) (String.ofList name) := by
      rw [key, Path.extend_concat before hname]
    have lists : (w.terrain proper access).Lists directory
        (Path.extend w.cwd start (names ++ [name])) := by
      rw [child] at below ⊢
      exact lists_directory proper unlinked readable hname below
    -- Nothing above has as many components, so nothing above really stands here.
    have apart : (w.terrain proper access).realPath (Path.extend w.cwd start (names ++ [name])) ∉
        (directory :: above).map (w.terrain proper access).realPath := by
      intro again
      obtain ⟨upper, mem, same⟩ := List.mem_map.1 again
      have parts := unlinked.parts_eq_of_realPath (way.isDirectory_of_mem mem) below same
      have bound := short upper mem
      rw [parts] at bound
      omega
    refine ⟨Path.extend w.cwd start (names ++ [name]), directory :: above,
      .down way lists ((isDirectory_terrain proper _).trans below) apart,
      Path.normalize_extend named, ?_⟩
    intro upper mem
    rw [← List.append_assoc, List.length_append, List.length_singleton]
    rcases List.mem_cons.1 mem with rfl | mem
    · exact Nat.le_of_eq length
    · exact Nat.le_succ_of_le (short upper mem)

/-- On a way all paths begin as the first one. -/
theorem isPlain_of_way (proper : w.Proper) {above : List String}
    (way : (w.terrain proper access).Way start (directory :: above)) :
    Path.IsPlain w.cwd directory ↔ Path.IsPlain w.cwd start := by
  induction above generalizing directory with
  | nil =>
    cases way with
    | down _ offers =>
      have first : directory = start := offers
      rw [first]
  | cons upper above ih =>
    cases way with
    | down way offers =>
      have lists : (w.terrain proper access).Lists upper directory := offers
      have parent : Path.directory directory = Path.normalize w.cwd upper := lists.directory_eq
      have normal : Path.normalize w.cwd directory = directory := lists.key_eq
      rw [← Path.isPlain_directory normal, parent, Path.isPlain_normalize]
      exact ih way

/-! ### Buffers -/

variable {b : String}

/-- The directory of a buffer lists it if it is on the disk. -/
theorem lists_buffer (proper : w.Proper) (unlinked : w.disk.Unlinked)
    (readable : ∀ path, access.closed path = false) (buffered : b ∈ w.documents.buffers.keys)
    (above : Path.directory b = Path.normalize w.cwd directory)
    (there : w.disk.isDirectory w.cwd (Path.directory b) = true) :
    (w.terrain proper access).Lists directory b := by
  rw [above] at there
  obtain ⟨leads, here⟩ := unlinked.entry?_parts there
  exact (lists_terrain proper).2
    ⟨readable _, Documents.mem_children.2 ⟨_, leads, here, Or.inr ⟨buffered, above⟩⟩⟩

/-- A directory that lists something is on the disk, also under its normal path. -/
theorem isDirectory_of_lists (proper : w.Proper)
    (lists : (w.terrain proper access).Lists directory b) :
    w.disk.isDirectory w.cwd (Path.directory b) = true := by
  have above : Path.directory b = Path.normalize w.cwd directory := lists.directory_eq
  obtain ⟨-, listed⟩ := (lists_terrain proper).1 lists
  obtain ⟨place, leads, here, -⟩ := Documents.mem_children.1 listed
  rw [above]
  exact Disk.isDirectory_iff.2 ⟨place, leads, here⟩

/-- A buffer beneath a root is reached if and only if its directory is on the disk, and it begins
as the root does. -/
theorem reaches_buffer_iff (proper : w.Proper) (unlinked : w.disk.Unlinked)
    (readable : ∀ path, access.closed path = false)
    (there : w.disk.isDirectory w.cwd start = true) (buffered : b ∈ w.documents.buffers.keys)
    (beneath : Path.IsBeneath w.cwd b start) (single : w.disk.isDirectory w.cwd b = false) :
    (w.terrain proper access).Reaches ∅ start (Handle.forPath w.cwd b) ↔
      w.disk.isDirectory w.cwd (Path.directory b) = true ∧ Path.SameStart w.cwd b start := by
  have normal : Path.normalize w.cwd b = b := proper.buffers b buffered
  constructor
  · rintro (⟨none, -⟩ | ⟨route, path, lists, -, resolved⟩)
    · have both : true = false := there.symm.trans none
      cases both
    · have same : path = b := by
        have handle := congrArg Handle.path (eq_of_resolve resolved)
        have key : Path.normalize w.cwd path = path := lists.key_eq
        rw [← key, ← normal]
        exact handle.symm
      subst same
      have above : Path.directory path = Path.normalize w.cwd _ := lists.directory_eq
      refine ⟨isDirectory_of_lists proper lists, ?_⟩
      unfold Path.SameStart
      rw [← Path.isPlain_directory normal, above, Path.isPlain_normalize]
      exact isPlain_of_way proper route.way
  · rintro ⟨parent, same⟩
    obtain ⟨names, name, named, hname, whole⟩ := beneath.exists_extend normal same
    have above : Path.directory b = Path.extend w.cwd start names := by
      rw [whole, Path.directory_extend named hname]
    obtain ⟨directory, upper, way, key, -⟩ :=
      exists_way proper unlinked readable there named (above ▸ parent)
    have lists := lists_buffer proper unlinked readable buffered (above.trans key.symm) parent
    refine .inside (route_of_way proper unlinked way) ⟨b, lists, single, ?_⟩
    change w.documents.resolve w.disk w.cwd b = _
    have held : w.documents.buffers.has b = true := by
      rw [Table.has_eq_isSome_get?]
      exact Table.mem_keys_iff.1 buffered
    unfold Documents.resolve Handle.forPath
    dsimp only
    rw [normal, held, Bool.true_or, if_pos rfl]

/-- Without links and closed directories, discovery from one root that is a directory finds a
buffer beneath the root, however deep, if and only if the buffer's directory is on the disk and the
two paths begin alike.  The buffer must not be a directory itself. -/
theorem unsaved_found_iff (proper : w.Proper) (unlinked : w.disk.Unlinked)
    (readable : ∀ path, access.closed path = false) (cancellable : Bool) {root : Root}
    (there : w.disk.isDirectory w.cwd (root.start w.cwd) = true) {t : Trace}
    {r : Except Fault Discovered}
    (run : Runs (Discovery.discover w.cwd cancellable [root]).attempt t r)
    (shows : (w.terrain proper access).Shows t) (passes : ⟨.isCancelled, true⟩ ∉ t) :
    ∃ found, r = .ok found ∧ ∀ b ∈ w.documents.buffers.keys,
      Path.IsBeneath w.cwd b (root.start w.cwd) → w.disk.isDirectory w.cwd b = false →
        (Handle.forPath w.cwd b ∈ found.files ↔
          w.disk.isDirectory w.cwd (Path.directory b) = true ∧
            Path.SameStart w.cwd b (root.start w.cwd)) := by
  have ensured : (w.terrain proper access).Ensures
      (Discovery.discover w.cwd cancellable [root]) fun found => ∀ h, h ∈ found.files ↔
        (w.terrain proper access).Gathers h ∅ [root] := Terrain.ensures_discover [root]
  obtain ⟨found, same, files⟩ := ensured.returns run shows passes
  refine ⟨found, same, ?_⟩
  intro b buffered beneath single
  have reached := reaches_buffer_iff proper unlinked readable there buffered beneath single
  exact ((files _).trans (or_iff_left id)).trans reached

/-- A directory in a directory, and three files that are not saved: one deep down, one in a new
folder, and one whose path begins with two slashes. -/
def drafts : Workspace where
  disk := { entries :=
    [(["p".toList], .directory), (["p".toList, "q".toList], .directory),
      (["p".toList, "q".toList, "a.py".toList], .file [])] }
  documents := { defaultEncoding := "utf-8", encodings := [],
                 buffers := [("/p/q/b.py", "x"), ("/p/new/x.py", "y"), ("//p/z.py", "z")] }
  cwd := "/"
  temporaryDirectory := "/tmp"

/-- Its paths are paths that a system has. -/
theorem proper_drafts : drafts.Proper := by decide +kernel

/-- There is no link in it. -/
theorem unlinked_drafts : drafts.disk.Unlinked := by
  apply Disk.unlinked_of_entries
  unfold drafts
  simp

/-- What discovery finds there. -/
theorem discovered_drafts :
    ((drafts.terrain proper_drafts .plain).discovered [.path "/p"]).map (·.files.map (·.path)) =
      .ok ["/p/q/a.py", "/p/q/b.py"] := by
  decide +kernel

/-- The file in the directory that is on the disk is found, the ones in the new folder and behind
two slashes are not. -/
theorem deep_draft_found : ∃ found,
    (drafts.terrain proper_drafts .plain).discovered [.path "/p"] = .ok found ∧
    Handle.forPath "/" "/p/q/b.py" ∈ found.files ∧
    Handle.forPath "/" "/p/new/x.py" ∉ found.files ∧
    Handle.forPath "/" "//p/z.py" ∉ found.files := by
  obtain ⟨t, run, shows, passes⟩ :=
    (drafts.terrain proper_drafts .plain).exists_runs_discovered [.path "/p"]
  have there : drafts.disk.isDirectory drafts.cwd ((Root.path "/p").start drafts.cwd) = true := by
    decide +kernel
  have readable : ∀ path, Access.plain.closed path = false := fun _ => rfl
  obtain ⟨found, same, exact⟩ :=
    unsaved_found_iff proper_drafts unlinked_drafts readable true there run shows passes
  refine ⟨found, same, ?_, ?_, ?_⟩
  · exact (exact "/p/q/b.py" (by decide) ⟨["q".toList, "b.py".toList], by decide, by decide +kernel⟩
      (by decide +kernel)).2 (by decide +kernel)
  · intro mem
    have parent := (exact "/p/new/x.py" (by decide)
      ⟨["new".toList, "x.py".toList], by decide, by decide +kernel⟩ (by decide +kernel)).1 mem
    exact absurd parent.1 (by decide +kernel)
  · intro mem
    have alike := (exact "//p/z.py" (by decide) ⟨["z.py".toList], by decide, by decide +kernel⟩
      (by decide +kernel)).1 mem
    exact absurd alike.2 (by decide +kernel)

/-- Not every buffer beneath a root is found: a new file in a new folder is missed. -/
theorem new_folder_missed : ¬ ∀ (w : Workspace) (proper : w.Proper) (access : Access)
    (root : Root) (found : Discovered), w.disk.Unlinked → (∀ path, access.closed path = false) →
      w.disk.isDirectory w.cwd (root.start w.cwd) = true →
        (w.terrain proper access).discovered [root] = .ok found →
          ∀ b ∈ w.documents.buffers.keys, Path.IsBeneath w.cwd b (root.start w.cwd) →
            w.disk.isDirectory w.cwd b = false → Handle.forPath w.cwd b ∈ found.files := by
  intro all
  have paths := discovered_drafts
  cases result : (drafts.terrain proper_drafts .plain).discovered [.path "/p"] with
  | error fault =>
    rw [result] at paths
    cases paths
  | ok found =>
    rw [result] at paths
    have mem := all drafts proper_drafts .plain (.path "/p") found unlinked_drafts (fun _ => rfl)
      (by decide +kernel) result "/p/new/x.py" (by decide)
      ⟨["new".toList, "x.py".toList], by decide, by decide +kernel⟩ (by decide +kernel)
    have listed : (Handle.forPath drafts.cwd "/p/new/x.py").path ∈ found.files.map (·.path) :=
      List.mem_map_of_mem mem
    have files : found.files.map (·.path) = ["/p/q/a.py", "/p/q/b.py"] := Except.ok.inj paths
    rw [files] at listed
    exact absurd listed (by decide +kernel)

end Workspace

end LiveCheck
