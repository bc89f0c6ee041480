import LiveCheck.Proofs.Discovery.Walk

/-!
# Discovery from several roots

The paths that are remembered are shared by the walks of all roots, and the directories above a
walk are not: each root starts with none.  So a root beneath an earlier one is passed over, although
its own walk would go where the earlier one does not: the earlier walk stops at a link back to
a directory between the two roots, and a walk from the inner root would follow it.

Therefore discovery from several roots finds the files of those that are not passed over
(`Terrain.Keeps`), which may be less than the union over all roots.  It is the union when no link
beneath an inner root leads back above it (`Terrain.Unturned`), for one when nothing is linked.
-/

namespace LiveCheck

open Program (Runs)

namespace Terrain

variable {g : Terrain} {cancellable : Bool} {start directory outer inner : String}
  {above below : List String} {seen seen' : Set String} {h : Handle} {roots kept : List Root}

/-! ### Parts of ways -/

/-- A way leads from the root to the directory. -/
def LeadsTo (g : Terrain) (start directory : String) : Prop :=
  ∃ above, g.Way start (directory :: above)

/-- The part of a way behind a directory on it is a way from there. -/
theorem Way.from_mem (way : g.Way start (below ++ inner :: above)) :
    g.Way inner (below ++ [inner]) := by
  induction below with
  | nil => exact .down .nil rfl (way.isDirectory_of_mem List.mem_cons_self) List.not_mem_nil
  | cons last below ih =>
    have rest := ih way.tail
    cases way with
    | down way offers there apart =>
      have offered : g.Offers inner (below ++ [inner]) last := by
        cases below with
        | nil => exact offers
        | cons => exact offers
      have part : below ++ [inner] ⊆ below ++ inner :: above := by simp
      exact .down rest offered there fun again => apart (List.map_subset _ part again)

/-- From a directory on a way there is a way to the last one. -/
theorem Way.leadsTo_of_mem (way : g.Way start (directory :: above))
    (on : inner ∈ directory :: above) : g.LeadsTo inner directory := by
  obtain ⟨below, rest, split⟩ := List.append_of_mem on
  rw [split] at way
  have part := way.from_mem
  cases below with
  | nil =>
    obtain ⟨rfl, -⟩ := List.cons.inj split
    exact ⟨[], part⟩
  | cons last below =>
    obtain ⟨rfl, -⟩ := List.cons.inj split
    exact ⟨below ++ [inner], part⟩

/-- Two ways are one if the second never comes back to a place of the first. -/
theorem Way.append (way : g.Way outer (inner :: above)) (way' : g.Way inner below)
    (apart : ∀ directory ∈ below, g.realPath directory ∉ above.map g.realPath) :
    g.Way outer (below ++ above) := by
  induction way' with
  | nil => exact way.tail
  | @down rest last before offers there fresh ih =>
    obtain ⟨here, others⟩ := List.forall_mem_cons.1 apart
    have offered : g.Offers outer (rest ++ above) last := by
      cases rest with
      | nil =>
        obtain rfl : last = inner := offers
        cases way with
        | down _ offered => exact offered
      | cons => exact offers
    have new : g.realPath last ∉ (rest ++ above).map g.realPath := by
      rw [List.map_append, List.mem_append]
      exact not_or.2 ⟨fresh, here⟩
    exact .down (ih others) offered there new

/-- A file is found under the directory if it is in one to which a way leads. -/
theorem LeadsTo.finds (leads : g.LeadsTo start directory) (has : g.Has directory h) :
    g.Finds start h := by
  obtain ⟨above, way⟩ := leads
  exact .inside way has

/-- A route stays one if less is remembered. -/
theorem Route.mono (route : g.Route seen start above) (less : seen' ⊆ seen) :
    g.Route seen' start above :=
  ⟨route.way, fun directory on old => route.unseen directory on (less old), route.keys⟩

/-- Less remembered, more found. -/
theorem Reaches.mono (reaches : g.Reaches seen start h) (less : seen' ⊆ seen) :
    g.Reaches seen' start h := by
  cases reaches with
  | file single resolved => exact .file single resolved
  | inside route has => exact .inside (route.mono less) has

/-- Whatever is found under several roots is found under one of them alone. -/
theorem Gathers.exists_reaches (gathers : g.Gathers h seen roots) :
    ∃ root ∈ roots, g.Reaches ∅ (root.start g.cwd) h := by
  induction roots generalizing seen with
  | nil => exact gathers.elim
  | cons root rest ih =>
    rcases gathers with here | later
    · exact ⟨root, List.mem_cons_self, here.mono (Set.empty_subset _)⟩
    · obtain ⟨root', mem, reaches⟩ := ih later
      exact ⟨root', List.mem_cons_of_mem _ mem, reaches⟩

/-! ### The roots that are kept -/

/-- The directories that ways from these roots lead to. -/
def covered (g : Terrain) (kept : List Root) : Set String :=
  {path | ∃ root ∈ kept, g.LeadsTo (root.start g.cwd) path}

/-- The root has a normal path. -/
def Normal (g : Terrain) (root : Root) : Prop :=
  g.key (root.start g.cwd) = root.start g.cwd

/-- `Keeps kept roots all`: if the first roots to be walked are `kept` and `roots` follow, then
`all` is what is kept of them, all but those that a way from one kept earlier leads to. -/
inductive Keeps (g : Terrain) : List Root → List Root → List Root → Prop where
  | done (kept : List Root) : Keeps g kept [] kept
  | new {kept roots all : List Root} {root : Root} (bare : root.start g.cwd ∉ g.covered kept)
      (rest : Keeps g (kept ++ [root]) roots all) : Keeps g kept (root :: roots) all
  | passed {kept roots all : List Root} {root : Root} (known : root.start g.cwd ∈ g.covered kept)
      (rest : Keeps g kept roots all) : Keeps g kept (root :: roots) all

/-- Of all roots some are kept. -/
theorem exists_keeps (g : Terrain) (kept roots : List Root) : ∃ all, g.Keeps kept roots all := by
  induction roots generalizing kept with
  | nil => exact ⟨kept, .done kept⟩
  | cons root rest ih =>
    by_cases known : root.start g.cwd ∈ g.covered kept
    · obtain ⟨all, keeps⟩ := ih kept
      exact ⟨all, .passed known keeps⟩
    · obtain ⟨all, keeps⟩ := ih (kept ++ [root])
      exact ⟨all, .new known keeps⟩

/-- What a normal root leads to has a normal path. -/
theorem Normal.key_eq {root : Root} (normal : g.Normal root)
    (leads : g.LeadsTo (root.start g.cwd) directory) : g.key directory = directory := by
  obtain ⟨above, way⟩ := leads
  exact way.key_eq_of_mem normal List.mem_cons_self

/-- Ways from kept roots come into a directory from above, or begin there. -/
theorem exists_start_of_covered {parent : String} (normals : ∀ root ∈ kept, g.Normal root)
    (lists : g.Lists parent directory) (normal : g.key parent = parent)
    (outside : parent ∉ g.covered kept) (inside : directory ∈ g.covered kept) :
    ∃ root ∈ kept, root.start g.cwd = directory := by
  obtain ⟨root, mem, above, way⟩ := inside
  refine ⟨root, mem, ?_⟩
  cases above with
  | nil => exact List.mem_singleton.1 way.start_mem
  | cons last above =>
    cases way with
    | down way offers =>
      have lists' : g.Lists last directory := offers
      have path : g.key last = last := (normals root mem).key_eq ⟨above, way⟩
      have same : last = parent := by
        rw [← path, ← lists'.directory_eq, lists.directory_eq, normal]
      rw [same] at way
      exact absurd (show parent ∈ g.covered kept from ⟨root, mem, above, way⟩) outside

/-- A way from a root that is not covered is a route, unless it comes through a kept root. -/
theorem Way.route_or_mem (way : g.Way start above) (normal : g.key start = start)
    (normals : ∀ root ∈ kept, g.Normal root) (bare : start ∉ g.covered kept) :
    g.Route (g.covered kept) start above ∨ ∃ root ∈ kept, root.start g.cwd ∈ above := by
  induction way with
  | nil => exact Or.inl route_nil
  | @down above last way offers there apart ih =>
    rcases ih with route | ⟨root, mem, on⟩
    · have whole : g.Way start (last :: above) := .down way offers there apart
      have path : g.key last = last := whole.key_eq_of_mem normal List.mem_cons_self
      by_cases entered : last ∈ g.covered kept
      · right
        cases above with
        | nil =>
          have first : last = start := offers
          rw [first] at entered
          exact absurd entered bare
        | cons parent above =>
          have before : g.key parent = parent := way.key_eq_of_mem normal List.mem_cons_self
          have outside := route.unseen parent List.mem_cons_self
          rw [before] at outside
          obtain ⟨root, mem, rfl⟩ :=
            exists_start_of_covered normals offers before outside entered
          exact ⟨root, mem, List.mem_cons_self⟩
      · left
        refine route_cons.2 ⟨route, offers, there, apart, ?_, ?_⟩
        · rw [path]
          exact entered
        · exact (List.nodup_cons.1 (whole.keys_nodup normal)).1
    · exact Or.inr ⟨root, mem, List.mem_cons_of_mem _ on⟩

/-- After a new root the directories are covered that ways from it lead to. -/
theorem remembered_of_new {root : Root} (normal : g.Normal root)
    (normals : ∀ root ∈ kept, g.Normal root) (bare : root.start g.cwd ∉ g.covered kept) :
    g.remembered (g.covered kept) root = g.covered (kept ++ [root]) := by
  refine Set.Subset.antisymm ?_ ?_
  · rintro path (⟨outer, mem, leads⟩ | ⟨last, above, route, rfl⟩)
    · exact ⟨outer, List.mem_append_left _ mem, leads⟩
    · refine ⟨root, by simp, above, ?_⟩
      rw [route.way.key_eq_of_mem normal List.mem_cons_self]
      exact route.way
  · rintro path ⟨outer, mem, leads⟩
    rcases List.mem_append.1 mem with mem | mem
    · exact Or.inl ⟨outer, mem, leads⟩
    · rw [List.mem_singleton.1 mem] at leads
      obtain ⟨above, way⟩ := leads
      rcases way.route_or_mem normal normals bare with route | ⟨outer, mem, on⟩
      · exact Or.inr ⟨path, above, route, way.key_eq_of_mem normal List.mem_cons_self⟩
      · exact Or.inl ⟨outer, mem, way.leadsTo_of_mem on⟩

/-- A new root has its files found, at the latest now. -/
theorem finds_of_new {root : Root} (normal : g.Normal root)
    (normals : ∀ root ∈ kept, g.Normal root) (bare : root.start g.cwd ∉ g.covered kept) :
    (∃ outer ∈ kept, g.Finds (outer.start g.cwd) h) ∨
        g.Reaches (g.covered kept) (root.start g.cwd) h ↔
      ∃ outer ∈ kept ++ [root], g.Finds (outer.start g.cwd) h := by
  constructor
  · rintro (⟨outer, mem, finds⟩ | reaches)
    · exact ⟨outer, List.mem_append_left _ mem, finds⟩
    · exact ⟨root, by simp, (reaches_iff_finds normal).1 (reaches.mono (Set.empty_subset _))⟩
  · rintro ⟨outer, mem, finds⟩
    rcases List.mem_append.1 mem with mem | mem
    · exact Or.inl ⟨outer, mem, finds⟩
    · rw [List.mem_singleton.1 mem] at finds
      rcases finds with ⟨single, resolved⟩ | ⟨way, has⟩
      · exact Or.inr (.file single resolved)
      · rcases way.route_or_mem normal normals bare with route | ⟨outer, mem, on⟩
        · exact Or.inr (.inside route has)
        · exact Or.inl ⟨outer, mem, (way.leadsTo_of_mem on).finds has⟩

/-- From a root that is remembered no route leads on. -/
theorem not_route_of_known (normal : g.key start = start) (known : start ∈ seen) :
    ¬ g.Route seen start (directory :: above) := by
  intro route
  refine route.unseen start route.way.start_mem ?_
  rw [normal]
  exact known

/-- What is gathered under roots with normal paths are the files of those that are kept. -/
theorem Keeps.gathers_iff {all : List Root} (keeps : g.Keeps kept roots all)
    (normals : ∀ root ∈ kept, g.Normal root) (normal : ∀ root ∈ roots, g.Normal root) :
    (∃ root ∈ kept, g.Finds (root.start g.cwd) h) ∨ g.Gathers h (g.covered kept) roots ↔
      ∃ root ∈ all, g.Finds (root.start g.cwd) h := by
  induction keeps with
  | done => exact or_iff_left id
  | @new kept roots all root bare rest ih =>
    obtain ⟨here, others⟩ := List.forall_mem_cons.1 normal
    have more : ∀ outer ∈ kept ++ [root], g.Normal outer := by
      intro outer mem
      rcases List.mem_append.1 mem with mem | mem
      · exact normals outer mem
      · rw [List.mem_singleton.1 mem]
        exact here
    rw [← ih more others, ← finds_of_new here normals bare, or_assoc,
      ← remembered_of_new here normals bare]
    rfl
  | @passed kept roots all root known rest ih =>
    obtain ⟨here, others⟩ := List.forall_mem_cons.1 normal
    have same : g.remembered (g.covered kept) root = g.covered kept := by
      refine Set.union_eq_self_of_subset_right ?_
      rintro path ⟨last, above, route, -⟩
      exact absurd route (not_route_of_known here known)
    have nothing : ¬ g.Reaches (g.covered kept) (root.start g.cwd) h := by
      rintro (⟨single, -⟩ | ⟨route, -⟩)
      · obtain ⟨outer, mem, above, way⟩ := known
        rw [way.isDirectory_of_mem List.mem_cons_self] at single
        cases single
      · exact not_route_of_known here known route
    rw [← ih normals others]
    refine or_congr_right ?_
    change _ ∨ g.Gathers h (g.remembered (g.covered kept) root) roots ↔ _
    rw [same]
    exact or_iff_right nothing

/-! ### When it is the union -/

/-- No way from a root comes back to a place that it lies beneath on a way from another root. -/
def Unturned (g : Terrain) (roots : List Root) : Prop :=
  ∀ outer ∈ roots, ∀ inner ∈ roots, ∀ above below,
    g.Way (outer.start g.cwd) (inner.start g.cwd :: above) → g.Way (inner.start g.cwd) below →
    ∀ directory ∈ below, g.realPath directory ∉ above.map g.realPath

/-- Then the files of a root that is passed over are those of another one. -/
theorem Unturned.finds {outer inner : Root} (unturned : g.Unturned roots) (mem : outer ∈ roots)
    (mem' : inner ∈ roots) (leads : g.LeadsTo (outer.start g.cwd) (inner.start g.cwd))
    (finds : g.Finds (inner.start g.cwd) h) : g.Finds (outer.start g.cwd) h := by
  obtain ⟨above, way⟩ := leads
  cases finds with
  | file single =>
    rw [way.isDirectory_of_mem List.mem_cons_self] at single
    cases single
  | inside way' has =>
    exact .inside (way.append way' (unturned outer mem inner mem' above _ way way')) has

/-- A kept root is one of the roots, and the others are covered by kept ones. -/
theorem Keeps.mem_or_covered {all : List Root} (keeps : g.Keeps kept roots all) :
    kept ⊆ all ∧ (∀ root ∈ all, root ∈ kept ∨ root ∈ roots) ∧
      ∀ root ∈ roots, root ∈ all ∨ root.start g.cwd ∈ g.covered all := by
  induction keeps with
  | done kept => exact ⟨List.Subset.refl _, fun _ mem => Or.inl mem, nofun⟩
  | @new kept roots all root bare rest ih =>
    obtain ⟨more, members, others⟩ := ih
    refine ⟨fun outer mem => more (List.mem_append_left _ mem), ?_, ?_⟩
    · intro outer mem
      rcases members outer mem with mem | mem
      · rcases List.mem_append.1 mem with mem | mem
        · exact Or.inl mem
        · exact Or.inr (List.mem_singleton.1 mem ▸ List.mem_cons_self)
      · exact Or.inr (List.mem_cons_of_mem _ mem)
    · intro outer mem
      rcases List.mem_cons.1 mem with rfl | mem
      · exact Or.inl (more (by simp))
      · exact others outer mem
  | @passed kept roots all root known rest ih =>
    obtain ⟨more, members, others⟩ := ih
    refine ⟨more, fun outer mem => (members outer mem).imp_right (List.mem_cons_of_mem _), ?_⟩
    intro outer mem
    rcases List.mem_cons.1 mem with rfl | mem
    · obtain ⟨other, mem, leads⟩ := known
      exact Or.inr ⟨other, more mem, leads⟩
    · exact others outer mem

/-- On a way from a normal path the paths become longer. -/
theorem Way.length_lt (way : g.Way start (directory :: above)) (normal : g.key start = start) :
    ∀ upper ∈ above, upper.toList.length < directory.toList.length := by
  induction above generalizing directory with
  | nil => exact nofun
  | cons last above ih =>
    have path : g.key directory = directory := way.key_eq_of_mem normal List.mem_cons_self
    cases way with
    | down before offers _ apart =>
      have lists : g.Lists last directory := offers
      have path' : g.key last = last := before.key_eq_of_mem normal List.mem_cons_self
      have parent : Path.directory directory = last := lists.directory_eq.trans path'
      have step : last.toList.length < directory.toList.length := by
        have shorter := Path.length_directory_lt g.cwd directory
        change Path.directory (g.key directory) = g.key directory ∨
          (Path.directory (g.key directory)).toList.length < (g.key directory).toList.length
          at shorter
        rw [path, parent] at shorter
        refine shorter.resolve_left ?_
        intro same
        exact apart (same ▸ List.mem_map_of_mem List.mem_cons_self)
      intro upper mem
      rcases List.mem_cons.1 mem with rfl | mem
      · exact step
      · exact (ih before upper mem).trans step

/-- Where every directory stands where its path says, no way comes back. -/
theorem unturned_of_unlinked (unlinked : ∀ path, g.isDirectory path = true →
    g.realPath path = g.key path) (normal : ∀ root ∈ roots, g.Normal root) :
    g.Unturned roots := by
  intro outer mem inner mem' above below way way' directory on again
  obtain ⟨upper, before, same⟩ := List.mem_map.1 again
  have there := way'.isDirectory_of_mem on
  have there' := way.isDirectory_of_mem (List.mem_cons_of_mem _ before)
  rw [unlinked _ there, unlinked _ there', way'.key_eq_of_mem (normal inner mem') on,
    way.key_eq_of_mem (normal outer mem) (List.mem_cons_of_mem _ before)] at same
  have shorter := way.length_lt (normal outer mem) upper before
  obtain ⟨rest, part⟩ : g.LeadsTo (inner.start g.cwd) directory := by
    obtain ⟨lower, rest, rfl⟩ := List.append_of_mem on
    exact ⟨rest, way'.of_append⟩
  have longer : (inner.start g.cwd).toList.length ≤ directory.toList.length := by
    rcases List.mem_cons.1 part.start_mem with first | first
    · rw [first]
    · exact Nat.le_of_lt (part.length_lt (normal inner mem') _ first)
  rw [same] at shorter
  omega

/-- What discovery finds under several roots.  Everything is found under one of the roots alone.
Of roots with normal paths the files of those are found that are kept; these are the files of all
roots if no way from a root comes back above it. -/
theorem found_under_roots (g : Terrain) (cancellable : Bool) (roots : List Root) {t : Trace}
    {r : Except Fault Discovered}
    (run : Runs (Discovery.discover g.cwd cancellable roots).attempt t r) (shows : g.Shows t)
    (passes : ⟨.isCancelled, true⟩ ∉ t) :
    ∃ found, r = .ok found ∧
      (∀ h ∈ found.files, ∃ root ∈ roots, g.Reaches ∅ (root.start g.cwd) h) ∧
      ((∀ root ∈ roots, g.Normal root) →
        (∃ kept, g.Keeps [] roots kept ∧
          ∀ h, h ∈ found.files ↔ ∃ root ∈ kept, g.Finds (root.start g.cwd) h) ∧
        (g.Unturned roots →
          ∀ h, h ∈ found.files ↔ ∃ root ∈ roots, g.Finds (root.start g.cwd) h)) := by
  obtain ⟨found, rfl, files⟩ := (ensures_discover roots).returns run shows passes
  refine ⟨found, rfl, fun h mem => ((files h).1 mem).exists_reaches, ?_⟩
  intro normal
  obtain ⟨kept, keeps⟩ := g.exists_keeps [] roots
  have uncovered : g.covered [] = ∅ := by
    refine Set.eq_empty_of_forall_notMem ?_
    rintro path ⟨root, mem, -⟩
    cases mem
  have finds : ∀ h, h ∈ found.files ↔ ∃ root ∈ kept, g.Finds (root.start g.cwd) h := by
    intro h
    rw [files, ← keeps.gathers_iff nofun normal, uncovered]
    simp
  refine ⟨⟨kept, keeps, finds⟩, ?_⟩
  intro unturned h
  obtain ⟨-, members, all⟩ := keeps.mem_or_covered
  have mem_roots : ∀ root ∈ kept, root ∈ roots := by
    intro root mem
    exact (members root mem).resolve_left List.not_mem_nil
  rw [finds]
  constructor
  · rintro ⟨root, mem, found⟩
    exact ⟨root, mem_roots root mem, found⟩
  · rintro ⟨root, mem, found⟩
    rcases all root mem with mem' | ⟨outer, mem', leads⟩
    · exact ⟨root, mem', found⟩
    · exact ⟨outer, mem', unturned.finds (mem_roots outer mem') mem leads found⟩

/-- A file in a directory, and a link back to it from a directory beneath. -/
def backLink : Workspace where
  disk := { entries :=
    [(["p".toList], .directory), (["p".toList, "x.py".toList], .file []),
      (["p".toList, "a".toList], .directory),
      (["p".toList, "a".toList, "back".toList], .link "/p")] }
  documents := .fresh "utf-8"
  cwd := "/"
  temporaryDirectory := "/tmp"

/-- The link is among names that a system has. -/
theorem proper_backLink : backLink.Proper := by decide +kernel

/-- Of the two roots only the outer one is kept. -/
theorem found_at_backLink : ∃ kept,
    (backLink.terrain proper_backLink .plain).Keeps [] [.path "/p", .path "/p/a"] kept ∧
    ∀ h : Handle, h ∈ [({ path := "/p/x.py" } : Handle)] ↔ ∃ root ∈ kept,
      (backLink.terrain proper_backLink .plain).Finds (root.start "/") h := by
  let g := backLink.terrain proper_backLink .plain
  obtain ⟨t, run, shows, passes⟩ := g.exists_runs_discovered [.path "/p", .path "/p/a"]
  obtain ⟨found, same, -, under⟩ := found_under_roots g true _ run shows passes
  have files : (g.discovered [.path "/p", .path "/p/a"]).map (·.files) =
      .ok [({ path := "/p/x.py" } : Handle)] := by
    decide +kernel
  have normal : ∀ root ∈ [Root.path "/p", .path "/p/a"], g.Normal root := by
    intro root mem
    rcases List.mem_pair.1 mem with rfl | rfl
    · exact key_key _
    · exact key_key _
  obtain ⟨⟨kept, keeps, finds⟩, -⟩ := under normal
  rw [same] at files
  rw [← Except.ok.inj files]
  exact ⟨kept, keeps, finds⟩

/-- A file is found under the inner root alone and if it comes first, and it is not found if the
outer root comes first. -/
theorem lost_behind_backLink : ∃ both inner swapped : Discovered,
    (backLink.terrain proper_backLink .plain).discovered [.path "/p", .path "/p/a"] = .ok both ∧
    (backLink.terrain proper_backLink .plain).discovered [.path "/p/a"] = .ok inner ∧
    (backLink.terrain proper_backLink .plain).discovered [.path "/p/a", .path "/p"] =
      .ok swapped ∧
    ∃ h, h ∈ inner.files ∧ h ∈ swapped.files ∧ h ∉ both.files := by
  refine ⟨{ visited := ["/p/a", "/p"], files := [{ path := "/p/x.py" }] },
    { visited := ["/p/a/back", "/p/a"], files := [{ path := "/p/a/back/x.py" }] },
    { visited := ["/p", "/p/a/back", "/p/a"],
      files := [{ path := "/p/a/back/x.py" }, { path := "/p/x.py" }] },
    by decide +kernel, by decide +kernel, by decide +kernel, { path := "/p/a/back/x.py" }, ?_⟩
  decide

end Terrain

end LiveCheck
