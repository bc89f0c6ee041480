import LiveCheck.Proofs.Discovery.Walk
import LiveCheck.Proofs.Disk.Elsewhere
import LiveCheck.Proofs.Scan.Firing

/-!
# The order of a listing does not matter

A walk is depth first and remembers paths, so what it does depends on the order in which a directory
is listed.  What it finds does not: the files are described by routes (`Terrain.Gathers`), and
routes only ask whether a path is in a directory.  Two terrains that list the same paths, in
whatever order, have the same routes (`Terrain.Alike`), as have two workspaces whose disks and
buffers are the same tables in another order (`Workspace.Reordered.alike`).

The files are then put in the order of their paths.  All of them are the workspace's own handles, so
no two have the same path, and one set of files has one order (`Discovered.sorted_eq`).  Hence the
files of a scan are the same list whenever it starts.
-/

namespace LiveCheck

open Program (Runs)

/-! ### Terrains that list the same -/

/-- The same paths are in the same directories, and everything else is the same. -/
structure Terrain.Alike (g g' : Terrain) : Prop where
  cwd : g'.cwd = g.cwd
  isDirectory : ∀ path, g'.isDirectory path = g.isDirectory path
  realPath : ∀ path, g.isDirectory path = true → g'.realPath path = g.realPath path
  resolve : ∀ path, g'.resolve path = g.resolve path
  lists : ∀ directory path, g.isDirectory directory = true →
    (g'.Lists directory path ↔ g.Lists directory path)

namespace Terrain

variable {g g' : Terrain} {start directory : String} {above : List String} {seen : Set String}
  {h : Handle} {roots : List Root} {cancellable : Bool}

namespace Alike

/-- It does not matter which one is named first. -/
theorem symm (alike : g.Alike g') : g'.Alike g where
  cwd := alike.cwd.symm
  isDirectory path := (alike.isDirectory path).symm
  realPath path there := (alike.realPath path ((alike.isDirectory path).symm.trans there)).symm
  resolve path := (alike.resolve path).symm
  lists directory path there :=
    (alike.lists directory path ((alike.isDirectory directory).symm.trans there)).symm

/-- Paths are remembered under the same keys. -/
theorem key_eq (alike : g.Alike g') (path : String) : g'.key path = g.key path := by
  unfold key
  rw [alike.cwd]

/-- The same files are in a directory. -/
theorem has (alike : g.Alike g') (there : g.isDirectory directory = true)
    (has : g.Has directory h) : g'.Has directory h := by
  obtain ⟨path, lists, single, resolved⟩ := has
  exact ⟨path, (alike.lists directory path there).2 lists, (alike.isDirectory path).trans single,
    (alike.resolve path).trans resolved⟩

/-- Ways of one are ways of the other. -/
theorem way (alike : g.Alike g') (way : g.Way start above) : g'.Way start above := by
  induction way with
  | nil => exact .nil
  | @down above last way offers there apart ih =>
    have offered : g'.Offers start above last := by
      cases above with
      | nil => exact offers
      | cons parent above =>
        exact (alike.lists parent last (way.isDirectory_of_mem List.mem_cons_self)).2 offers
    have places : above.map g'.realPath = above.map g.realPath := by
      refine List.map_congr_left ?_
      intro upper mem
      exact alike.realPath upper (way.isDirectory_of_mem mem)
    refine .down ih offered ((alike.isDirectory last).trans there) ?_
    rw [places, alike.realPath last there]
    exact apart

/-- Routes of one are routes of the other. -/
theorem route (alike : g.Alike g') (route : g.Route seen start above) :
    g'.Route seen start above := by
  have keys : above.map g'.key = above.map g.key :=
    List.map_congr_left fun path _ => alike.key_eq path
  refine ⟨alike.way route.way, ?_, ?_⟩
  · intro directory mem
    rw [alike.key_eq]
    exact route.unseen directory mem
  · rw [keys]
    exact route.keys

/-- The same files are reached. -/
theorem reaches (alike : g.Alike g') (reaches : g.Reaches seen start h) :
    g'.Reaches seen start h := by
  cases reaches with
  | file single resolved =>
    exact .file ((alike.isDirectory start).trans single) ((alike.resolve start).trans resolved)
  | inside route has =>
    exact .inside (alike.route route)
      (alike.has (route.way.isDirectory_of_mem List.mem_cons_self) has)

/-- What is remembered after a root in one is remembered in the other. -/
theorem remembered_subset (alike : g.Alike g') (root : Root) :
    g.remembered seen root ⊆ g'.remembered seen root := by
  rintro path (old | ⟨directory, above, route, rfl⟩)
  · exact Or.inl old
  · refine Or.inr ⟨directory, above, ?_, alike.key_eq directory⟩
    rw [alike.cwd]
    exact alike.route route

/-- The same is remembered. -/
theorem remembered_eq (alike : g.Alike g') (root : Root) :
    g'.remembered seen root = g.remembered seen root :=
  Set.Subset.antisymm (alike.symm.remembered_subset root) (alike.remembered_subset root)

/-- The same files are gathered. -/
theorem gathers (alike : g.Alike g') (gathers : g.Gathers h seen roots) :
    g'.Gathers h seen roots := by
  induction roots generalizing seen with
  | nil => exact gathers
  | cons root rest ih =>
    rcases gathers with here | later
    · refine Or.inl ?_
      rw [alike.cwd]
      exact alike.reaches here
    · refine Or.inr ?_
      rw [alike.remembered_eq]
      exact ih later

end Alike

end Terrain

/-! ### Workspaces in another order -/

/-- In a table that is put in another order the same is found. -/
theorem Table.get?_of_perm {κ ν : Type} [DecidableEq κ] {t t' : Table κ ν} (perm : t.Perm t')
    (nodup : t.keys.Nodup) (k : κ) : t'.get? k = t.get? k := by
  have nodup' : t'.keys.Nodup := (perm.map Prod.fst).nodup_iff.1 nodup
  cases found : t.get? k with
  | some v => exact Table.get?_of_mem nodup' (perm.mem_iff.1 (Table.mem_of_get? found))
  | none =>
    cases found' : t'.get? k with
    | none => rfl
    | some v =>
      rw [Table.get?_of_mem nodup (perm.mem_iff.2 (Table.mem_of_get? found'))] at found
      cases found

/-- What is listed in a directory: the names on the disk, and the buffers with this directory. -/
theorem Documents.mem_children {docs : Documents} {disk : Disk} {cwd path child : String} :
    (∃ listed, docs.children disk cwd path = .ok listed ∧ child ∈ listed) ↔
      ∃ place, disk.target? cwd (Path.normalize cwd path) = some place ∧
        disk.entry? place = some .directory ∧
        ((∃ name, disk.entry? (place ++ [name]) ≠ none ∧
            Path.join (Path.normalize cwd path) (String.ofList name) = child) ∨
          child ∈ docs.buffers.keys ∧ Path.directory child = Path.normalize cwd path) := by
  constructor
  · rintro ⟨listed, listing, mem⟩
    obtain ⟨names, named, same⟩ := bind_eq_ok.1 (show _ >>= _ = _ from listing)
    obtain rfl := Except.ok.inj same
    obtain ⟨place, leads, there, rfl⟩ := Disk.list_eq_ok.1 named
    refine ⟨place, leads, there, ?_⟩
    rcases List.mem_append.1 mem with onDisk | unsaved
    · obtain ⟨name, inside, rfl⟩ := List.mem_map.1 onDisk
      exact Or.inl ⟨name, Disk.mem_namesIn.1 inside, rfl⟩
    · obtain ⟨key, inside⟩ := List.mem_filter.1 unsaved
      exact Or.inr ⟨key, (decide_eq_true_iff.1 inside).1⟩
  · rintro ⟨place, leads, there, inside⟩
    have named : disk.list cwd (Path.normalize cwd path) = .ok (disk.namesIn place) :=
      Disk.list_eq_ok.2 ⟨place, leads, there, rfl⟩
    refine ⟨_, bind_eq_ok.2 ⟨_, named, rfl⟩, List.mem_append.2 ?_⟩
    by_cases onDisk : child ∈ (disk.namesIn place).map fun name =>
        Path.join (Path.normalize cwd path) (String.ofList name)
    · exact Or.inl onDisk
    · rcases inside with ⟨name, there, rfl⟩ | ⟨key, here⟩
      · exact Or.inl (List.mem_map.2 ⟨name, Disk.mem_namesIn.2 there, rfl⟩)
      · exact Or.inr (List.mem_filter.2 ⟨key, decide_eq_true ⟨here, onDisk⟩⟩)

namespace Workspace

variable {w w' : Workspace} {access access' : Access}

/-- Two workspaces with the same disk and the same buffers, the tables in different orders. -/
structure Reordered (w w' : Workspace) : Prop where
  cwd : w'.cwd = w.cwd
  nodup : w.disk.entries.keys.Nodup
  entries : w.disk.entries.Perm w'.disk.entries
  buffers : w.documents.buffers.Perm w'.documents.buffers

/-- What is listed in a directory that is not closed. -/
theorem lists_terrain (proper : w.Proper) {directory path : String} :
    (w.terrain proper access).Lists directory path ↔
      access.closed (Path.normalize w.cwd directory) = false ∧
        ∃ listed, w.documents.children w.disk w.cwd directory = .ok listed ∧ path ∈ listed := by
  unfold Terrain.Lists terrain
  dsimp only
  cases access.closed (Path.normalize w.cwd directory) with
  | true => simp
  | false =>
    cases w.documents.children w.disk w.cwd directory with
    | error fault => simp [Except.map]
    | ok listed => simp [Except.map, (access.perm _ listed).mem_iff]

/-- Two orders of one workspace are one terrain, up to the order of listings. -/
theorem Reordered.alike (same : w.Reordered w') (proper : w.Proper) (proper' : w'.Proper)
    (closed : access'.closed = access.closed) :
    (w.terrain proper access).Alike (w'.terrain proper' access') := by
  have entry (place : Place) : w'.disk.entry? place = w.disk.entry? place := by
    unfold Disk.entry?
    rw [Table.get?_of_perm same.entries same.nodup]
  have ways : w.disk.SameWays w'.disk := by
    intro place e _
    rw [entry]
  have lookUp (path : String) : w'.disk.lookUp? w'.cwd path = w.disk.lookUp? w.cwd path := by
    rw [same.cwd]
    exact ways.lookUp?_eq fun place _ => entry place
  have buffered (path : String) :
      path ∈ w'.documents.buffers.keys ↔ path ∈ w.documents.buffers.keys :=
    (same.buffers.map Prod.fst).mem_iff.symm
  refine ⟨same.cwd, ?isDirectory, ?realPath, ?resolve, ?lists⟩
  case isDirectory =>
    intro path
    change w'.disk.isDirectory w'.cwd path = w.disk.isDirectory w.cwd path
    unfold Disk.isDirectory
    rw [lookUp]
  case realPath =>
    intro path there
    have there' : w'.disk.isDirectory w'.cwd path = true := by
      unfold Disk.isDirectory
      rw [lookUp]
      exact there
    obtain ⟨place, leads, -, stands⟩ := Disk.exists_realPath there
    obtain ⟨place', leads', -, stands'⟩ := Disk.exists_realPath there'
    rw [same.cwd, ways.target?_eq, leads] at leads'
    obtain rfl := Option.some.inj leads'
    exact stands'.trans stands.symm
  case resolve =>
    intro path
    have held (path : String) : w'.documents.buffers.has path = w.documents.buffers.has path :=
      same.buffers.symm.any_eq
    have file (path : String) : w'.disk.isFile w'.cwd path = w.disk.isFile w.cwd path := by
      unfold Disk.isFile
      rw [lookUp]
    change w'.documents.resolve w'.disk w'.cwd path = w.documents.resolve w.disk w.cwd path
    unfold Documents.resolve
    dsimp only
    rw [held, file, same.cwd]
  case lists =>
    intro directory path _
    rw [lists_terrain, lists_terrain, Documents.mem_children, Documents.mem_children, closed,
      same.cwd]
    simp only [ways.target?_eq, entry, buffered]

end Workspace

/-! ### One order for the files -/

/-- One set of the workspace's own handles has one order. -/
theorem Discovered.sorted_eq {found found' : Discovered}
    (known : found.Known (·.provider = .workspace)) (known' : found'.Known (·.provider = .workspace))
    (same : ∀ h, h ∈ found'.files ↔ h ∈ found.files) : found'.sorted = found.sorted := by
  have perm : found'.sorted.Perm found.sorted := by
    refine found'.perm_sorted.trans (List.Perm.trans ?_ found.perm_sorted.symm)
    exact (List.perm_ext_iff_of_nodup known'.nodup known.nodup).2 same
  refine perm.eq_of_pairwise ?_ found'.pairwise_sorted found.pairwise_sorted
  rintro ⟨path, provider⟩ ⟨path', provider'⟩ mem mem' le ge
  have own : provider = .workspace := known'.all _ (found'.perm_sorted.mem_iff.1 mem)
  have own' : provider' = .workspace := known.all _ (found.perm_sorted.mem_iff.1 mem')
  have paths : path = path' := String.le_antisymm le ge
  rw [own, own', paths]

namespace Terrain

variable {g g' : Terrain} {cancellable : Bool} {roots : List Root} {t t' : Trace}

/-- What is found on a terrain are the workspace's own handles, each once. -/
theorem known_of_shows {found : Discovered}
    (run : Runs (Discovery.discover g.cwd cancellable roots).attempt t (.ok found))
    (shows : g.Shows t) : found.Known (·.provider = .workspace) := by
  refine Discovery.known_discover run ?_
  rintro e mem path h rfl
  have answer : Except.ok (some h) = Except.ok (g.resolve path) := shows _ mem
  rw [g.eq_of_resolve (Except.ok.inj answer).symm]
  rfl

/-- The same files are found. -/
theorem Alike.mem_files (alike : g.Alike g') {found found' : Discovered}
    (run : Runs (Discovery.discover g.cwd cancellable roots).attempt t (.ok found))
    (shows : g.Shows t)
    (run' : Runs (Discovery.discover g'.cwd cancellable roots).attempt t' (.ok found'))
    (shows' : g'.Shows t') (h : Handle) : h ∈ found'.files ↔ h ∈ found.files := by
  rw [(ensures_discover roots).of_ok run shows, (ensures_discover roots).of_ok run' shows']
  exact ⟨alike.symm.gathers, alike.gathers⟩

/-- They come in the same order. -/
theorem Alike.flatten_eq (alike : g.Alike g') {files files' : List Handle}
    (run : Runs (Discovery.flatten g.cwd cancellable roots).attempt t (.ok files))
    (shows : g.Shows t)
    (run' : Runs (Discovery.flatten g'.cwd cancellable roots).attempt t' (.ok files'))
    (shows' : g'.Shows t') : files' = files := by
  obtain ⟨found, discovering, rfl⟩ := Discovery.runs_flatten.1 run
  obtain ⟨found', discovering', rfl⟩ := Discovery.runs_flatten.1 run'
  exact Discovered.sorted_eq (known_of_shows discovering shows) (known_of_shows discovering' shows')
    (alike.mem_files discovering shows discovering' shows')

/-- The files under roots are found in their order, unless it is cancelled. -/
theorem ensures_flatten (roots : List Root) :
    g.Ensures (Discovery.flatten g.cwd cancellable roots) fun _ => True := by
  refine (ensures_discover roots).bind ?_
  intro found _
  exact ensures_pure trivial

/-- A scan with a rule resolves its files, unless it is cancelled. -/
theorem ensures_resolveFiles {scan : Scan} {filter : Filter} (cwd : scan.cwd = g.cwd)
    (targets : scan.targets = .roots roots) (picker : scan.picker = .rule filter) :
    g.Ensures scan.resolveFiles fun _ => True := by
  unfold Scan.resolveFiles Scan.candidates Scan.pick
  rw [targets, picker, cwd]
  refine (ensures_flatten roots).bind ?_
  intro files _
  exact ensures_pure trivial

/-- Such a scan does not fail before it asks for its listeners. -/
theorem asks_listeners {scan : Scan} {filter : Filter} (cwd : scan.cwd = g.cwd)
    (targets : scan.targets = .roots roots) (picker : scan.picker = .rule filter)
    {r : Except Fault (List Handle)} (start : Runs scan.start.attempt t r) (shows : g.Shows t)
    (passes : ⟨.isCancelled, true⟩ ∉ t) : ∃ e ∈ t, e.request = .listeners := by
  unfold Scan.start at start
  obtain ⟨t₁, rfl, checking⟩ := Scan.runs_enter_bind.1 start
  have shows₁ : g.Shows t₁ := fun e mem => shows e (List.mem_cons_of_mem _ mem)
  have passes₁ : ⟨.isCancelled, true⟩ ∉ t₁ := fun mem => passes (List.mem_cons_of_mem _ mem)
  rcases Program.runs_attempt_bind.1 checking with
    ⟨t₂, t₃, _, rfl, check, resolving⟩ | ⟨fault, rfl, check⟩
  · obtain ⟨-, shows₃⟩ := shows_append.1 shows₁
    have passes₃ : ⟨.isCancelled, true⟩ ∉ t₃ := fun mem => passes₁ (List.mem_append_right _ mem)
    rcases Program.runs_attempt_bind.1 resolving with
      ⟨search, t₄, files, rfl, resolve, reading⟩ | ⟨fault, rfl, resolve⟩
    · obtain ⟨_, t₅, registered, rfl, registry, telling⟩ :=
        Program.runs_attempt_ofTotal_bind.1 reading
      obtain rfl := Scan.runs_registered.1 registry
      exact ⟨⟨.listeners, registered⟩, by simp [Trace.registering], rfl⟩
    · obtain ⟨files, ended, -⟩ :=
        (ensures_resolveFiles cwd targets picker).returns resolve shows₃ passes₃
      cases ended
  · obtain ⟨_, ended, -⟩ := (ensures_checkCancelled true).returns check shows₁ passes₁
    cases ended

/-- A scan of roots with a rule tells its listeners that it starts, unless it is cancelled. -/
theorem exists_firing {scan : Scan} {filter : Filter} (cwd : scan.cwd = g.cwd)
    (targets : scan.targets = .roots roots) (picker : scan.picker = .rule filter)
    {r : Except Fault Report} (run : Runs scan.run t r) (shows : g.Shows t)
    (passes : ⟨.isCancelled, true⟩ ∉ t) : ∃ f : scan.Firing, f.trace = t := by
  refine (Scan.exists_firing run).resolve_left ?_
  rintro ⟨id, t₁, t₂, fault, rfl, start, unasked, -⟩
  have inside : t₁ ⊆ ⟨.freshId, id⟩ :: (t₁ ++ t₂) := by simp
  obtain ⟨e, mem, asked⟩ := asks_listeners cwd targets picker start
    (fun e mem => shows e (inside mem)) (fun mem => passes (inside mem))
  exact unasked e mem asked

/-- The search for the files of a scan of roots: what is found under the roots, and what is picked
of it. -/
theorem search_eq {scan : Scan} (cwd : scan.cwd = g.cwd) (targets : scan.targets = .roots roots)
    (f : scan.Firing) : ∃ t₁ t₂ handles, f.search = t₁ ++ t₂ ∧
      Runs (Discovery.flatten g.cwd true roots).attempt t₁ (.ok handles) ∧
      Runs (scan.pick handles).attempt t₂ (.ok f.files) := by
  have resolve := f.resolve
  unfold Scan.resolveFiles Scan.candidates at resolve
  rw [targets, cwd] at resolve
  exact Program.runs_attempt_bind_ok.1 resolve

/-- Two scans of the same roots tell their listeners of the same files, if whatever picks them
picks the same among the same. -/
theorem Alike.firing_files (alike : g.Alike g') {scan : Scan} (cwd : scan.cwd = g.cwd)
    (targets : scan.targets = .roots roots) (f f' : scan.Firing) (shows : g.Shows f.search)
    (shows' : g'.Shows f'.search)
    (picks : scan.picker = .provided → ∀ handles reply reply', ⟨.pick handles, reply⟩ ∈ f.search →
      ⟨.pick handles, reply'⟩ ∈ f'.search → reply' = reply) : f'.files = f.files := by
  obtain ⟨t₁, t₂, handles, split, find, pick⟩ := search_eq cwd targets f
  obtain ⟨t₁', t₂', handles', split', find', pick'⟩ :=
    search_eq (cwd.trans alike.cwd.symm) targets f'
  rw [split] at shows picks
  rw [split'] at shows' picks
  obtain rfl := alike.flatten_eq find (shows_append.1 shows).1 find' (shows_append.1 shows').1
  unfold Scan.pick at pick pick'
  cases picker : scan.picker with
  | rule filter =>
    rw [picker] at pick pick'
    obtain ⟨-, selected⟩ := Program.runs_attempt_pure.1 pick
    obtain ⟨-, selected'⟩ := Program.runs_attempt_pure.1 pick'
    exact Except.ok.inj (selected'.trans selected.symm)
  | provided =>
    rw [picker] at pick pick'
    obtain rfl := Program.runs_request.1 (Program.runs_attempt_ofProgram.1 pick)
    obtain rfl := Program.runs_request.1 (Program.runs_attempt_ofProgram.1 pick')
    exact Except.ok.inj (picks picker handles' (.ok f.files) (.ok f'.files)
      (List.mem_append_right _ List.mem_cons_self) (List.mem_append_right _ List.mem_cons_self))

/-- Where directories list the same in another order, the same is found.  Discovery from any roots
finds one set of files, and as a list they come in one order.  Two scans of the roots that come to
tell their listeners that they start tell them of one list, and if a rule picks their files they do
come to it. -/
theorem same_in_any_order {g g' : Terrain} (alike : g.Alike g') (roots : List Root) :
    (∀ cancellable t t' r r', Runs (Discovery.discover g.cwd cancellable roots).attempt t r →
      Runs (Discovery.discover g'.cwd cancellable roots).attempt t' r' →
      g.Shows t → g'.Shows t' → ⟨.isCancelled, true⟩ ∉ t → ⟨.isCancelled, true⟩ ∉ t' →
      ∃ found found', r = .ok found ∧ r' = .ok found' ∧ found'.files.Perm found.files) ∧
    (∀ cancellable t t' r r', Runs (Discovery.flatten g.cwd cancellable roots).attempt t r →
      Runs (Discovery.flatten g'.cwd cancellable roots).attempt t' r' →
      g.Shows t → g'.Shows t' → ⟨.isCancelled, true⟩ ∉ t → ⟨.isCancelled, true⟩ ∉ t' →
      ∃ files, r = .ok files ∧ r' = .ok files) ∧
    ∀ scan : Scan, scan.cwd = g.cwd → scan.targets = .roots roots →
      (∀ f f' : scan.Firing, g.Shows f.search → g'.Shows f'.search →
        (scan.picker = .provided → ∀ handles reply reply', ⟨.pick handles, reply⟩ ∈ f.search →
          ⟨.pick handles, reply'⟩ ∈ f'.search → reply' = reply) → f'.files = f.files) ∧
      ∀ filter, scan.picker = .rule filter → ∀ t t' r r', Runs scan.run t r → Runs scan.run t' r' →
        g.Shows t → g'.Shows t' → ⟨.isCancelled, true⟩ ∉ t → ⟨.isCancelled, true⟩ ∉ t' →
        ∃ f f' : scan.Firing, f.trace = t ∧ f'.trace = t' ∧ f'.files = f.files := by
  refine ⟨?discover, ?flatten, ?announce⟩
  case discover =>
    intro cancellable t t' r r' run run' shows shows' passes passes'
    obtain ⟨found, rfl, -⟩ := (ensures_discover roots).returns run shows passes
    obtain ⟨found', rfl, -⟩ := (ensures_discover roots).returns run' shows' passes'
    have known := known_of_shows run shows
    have known' := known_of_shows run' shows'
    exact ⟨found, found', rfl, rfl, (List.perm_ext_iff_of_nodup known'.nodup known.nodup).2
      (alike.mem_files run shows run' shows')⟩
  case flatten =>
    intro cancellable t t' r r' run run' shows shows' passes passes'
    obtain ⟨files, rfl, -⟩ := (ensures_flatten roots).returns run shows passes
    obtain ⟨files', rfl, -⟩ := (ensures_flatten roots).returns run' shows' passes'
    rw [alike.flatten_eq run shows run' shows']
    exact ⟨files, rfl, rfl⟩
  case announce =>
    intro scan cwd targets
    refine ⟨fun f f' => alike.firing_files cwd targets f f', ?_⟩
    intro filter picker t t' r r' run run' shows shows' passes passes'
    obtain ⟨f, rfl⟩ := exists_firing cwd targets picker run shows passes
    obtain ⟨f', rfl⟩ :=
      exists_firing (cwd.trans alike.cwd.symm) targets picker run' shows' passes'
    refine ⟨f, f', rfl, rfl, ?_⟩
    have searched {f : scan.Firing} : f.search ⊆ f.trace := by
      intro e mem
      simp [Scan.Firing.trace, mem]
    refine alike.firing_files cwd targets f f' (fun e mem => shows e (searched mem))
      (fun e mem => shows' e (searched mem)) ?_
    intro provided
    rw [picker] at provided
    cases provided

/-- The same tree, its table and its buffers in another order. -/
def tangleBackwards : Workspace where
  disk := { entries := tangle.disk.entries.reverse }
  documents := { tangle.documents with buffers := tangle.documents.buffers.reverse }
  cwd := "/"
  temporaryDirectory := "/tmp"

/-- Its names are the same. -/
theorem proper_tangleBackwards : tangleBackwards.Proper := by decide +kernel

/-- The two are one workspace in two orders. -/
theorem reordered_tangle : tangle.Reordered tangleBackwards where
  cwd := rfl
  nodup := by decide +kernel
  entries := (List.reverse_perm _).symm
  buffers := (List.reverse_perm _).symm

/-- The scan of a root and of a directory in it. -/
def tangleScan : Scan :=
  .of (Project.make "/" "/p" [] []) Settings.default "/" .tool none
    (.roots [.path "/p", .path "/p/q"])

/-- The files are found in different orders and are the same, and two scans that ask in different
orders, one on either terrain, tell their listeners of one list. -/
theorem same_in_tangles :
    let g := tangle.terrain proper_tangle .plain
    let g' := tangleBackwards.terrain proper_tangleBackwards .plain
    let roots : List Root := [.path "/p", .path "/p/q"]
    (∃ found found', g.discovered roots = .ok found ∧ g'.discovered roots = .ok found' ∧
      found'.files.Perm found.files ∧ found'.files ≠ found.files) ∧
    ∃ f f' : tangleScan.Firing,
      f.trace = (Program.answered (g.reply Request.nothing) tangleScan.run).1 ∧
      f'.trace = (Program.answered (g'.reply Request.nothing) tangleScan.run).1 ∧
      f'.trace ≠ f.trace ∧ f'.files = f.files := by
  intro g g' roots
  have alike : g.Alike g' := reordered_tangle.alike _ _ rfl
  obtain ⟨discover, -, announce⟩ := same_in_any_order alike roots
  refine ⟨?found, ?told⟩
  case found =>
    obtain ⟨t, run, shows, passes⟩ := g.exists_runs_discovered roots
    obtain ⟨t', run', shows', passes'⟩ := g'.exists_runs_discovered roots
    obtain ⟨found, found', same, same', perm⟩ :=
      discover true t t' _ _ run run' shows shows' passes passes'
    have files : (g.discovered roots).map (·.files.getLast?) =
        .ok (some { path := "/p/q/late.py" }) := by
      decide +kernel
    have files' : (g'.discovered roots).map (·.files.getLast?) =
        .ok (some { path := "/p/shut/d.py" }) := by
      decide +kernel
    rw [same] at files
    rw [same'] at files'
    refine ⟨found, found', same, same', perm, fun equal => ?_⟩
    have last : found.files.getLast? = some { path := "/p/q/late.py" } := Except.ok.inj files
    have last' : found'.files.getLast? = some { path := "/p/shut/d.py" } := Except.ok.inj files'
    rw [equal, last] at last'
    exact absurd last' (by decide)
  case told =>
    obtain ⟨f, f', here, there, told⟩ := (announce tangleScan rfl rfl).2 _ rfl _ _ _ _
      (Program.runs_answered (g.reply Request.nothing) tangleScan.run)
      (Program.runs_answered (g'.reply Request.nothing) tangleScan.run)
      (g.shows_answered Request.nothing _) (g'.shows_answered Request.nothing _)
      (g.not_cancelled_answered rfl _) (g'.not_cancelled_answered rfl _)
    have apart : (Program.answered (g'.reply Request.nothing) tangleScan.run).1.map (·.request) ≠
        (Program.answered (g.reply Request.nothing) tangleScan.run).1.map (·.request) := by
      decide +kernel
    refine ⟨f, f', here, there, fun same => apart ?_, told⟩
    rw [← here, ← there, same]

end Terrain

end LiveCheck
