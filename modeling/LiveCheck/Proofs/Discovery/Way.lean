import Mathlib.Data.List.Perm.Subperm
import Mathlib.Data.Set.Basic
import LiveCheck.Proofs.Discovery.Terrain

/-!
# Ways down from a root

A way leads from a root to a directory in it, from each directory to one that is listed there, and
never to a directory that really stands where one above it does.  These are the ways that a walk is
meant to go, and the files at their ends are the ones that it is meant to find (`Terrain.Finds`).

A walk does not remember ways, it remembers the paths that it was at.  A `Route` is a way that such
a memory does not cut short.  Since what is listed in a directory has the directory's path before
it, the last path of a route settles the whole of it (`Route.unique`), and for a root with a normal
path every way is a route (`Way.route`).
-/

namespace LiveCheck.Terrain

variable {g : Terrain} {start directory other child : String} {above rest : List String}
  {seen : Set String} {h : Handle}

/-- The path under which a directory is remembered. -/
def key (g : Terrain) (path : String) : String := Path.normalize g.cwd path

/-- The directory can be listed, and this path is in it. -/
def Lists (g : Terrain) (directory path : String) : Prop :=
  ∃ listed, g.children directory = .ok listed ∧ path ∈ listed

/-- A file is in the directory. -/
def Has (g : Terrain) (directory : String) (h : Handle) : Prop :=
  ∃ path, g.Lists directory path ∧ g.isDirectory path = false ∧ g.resolve path = some h

/-- Where a walk may go next: to the root, or to what is listed in the last directory. -/
def Offers (g : Terrain) (start : String) : List String → String → Prop
  | [], directory => directory = start
  | last :: _, directory => g.Lists last directory

/-- The directories on a way down from `start`, the last one first. -/
inductive Way (g : Terrain) (start : String) : List String → Prop where
  | nil : Way g start []
  | down {above : List String} {directory : String} (way : Way g start above)
      (offers : g.Offers start above directory) (there : g.isDirectory directory = true)
      (apart : g.realPath directory ∉ above.map g.realPath) : Way g start (directory :: above)

/-- The files under a path: the one that it resolves to, or those in the directories that a way
leads to. -/
inductive Finds (g : Terrain) (start : String) (h : Handle) : Prop where
  | file (single : g.isDirectory start = false) (resolved : g.resolve start = some h)
  | inside {directory : String} {above : List String} (way : g.Way start (directory :: above))
      (has : g.Has directory h)

/-- A way on which no path is remembered, neither from before nor from the way itself. -/
structure Route (g : Terrain) (seen : Set String) (start : String) (above : List String) :
    Prop where
  way : g.Way start above
  unseen : ∀ directory ∈ above, g.key directory ∉ seen
  keys : (above.map g.key).Nodup

/-! ### The paths on a way -/

/-- The normal form of a path is normal. -/
theorem key_key (path : String) : g.key (g.key path) = g.key path :=
  Path.normalize_normalize g.cwd g.cwd path

/-- What is listed has a normal path. -/
theorem Lists.key_eq (lists : g.Lists directory child) : g.key child = child := by
  obtain ⟨listed, listing, mem⟩ := lists
  exact (g.parent_of_mem listing mem).1

/-- What is listed in a directory has the directory's path before it. -/
theorem Lists.directory_eq (lists : g.Lists directory child) :
    Path.directory child = g.key directory := by
  obtain ⟨listed, listing, mem⟩ := lists
  exact (g.parent_of_mem listing mem).2

/-- A file in a directory has a normal path, which is none of a directory. -/
theorem Has.isDirectory_eq (has : g.Has directory h) : g.isDirectory h.path = false := by
  obtain ⟨path, lists, single, resolved⟩ := has
  have normal : h.path = path := by
    rw [g.eq_of_resolve resolved]
    exact lists.key_eq
  rw [normal]
  exact single

/-- A way without its last directory. -/
theorem Way.tail (way : g.Way start (directory :: above)) : g.Way start above := by
  cases way with
  | down way => exact way

/-- The part of a way that comes first. -/
theorem Way.of_append {below : List String} (way : g.Way start (below ++ above)) :
    g.Way start above := by
  induction below with
  | nil => exact way
  | cons last below ih => exact ih way.tail

/-- A way leads to directories. -/
theorem Way.isDirectory_of_mem (way : g.Way start above) (mem : directory ∈ above) :
    g.isDirectory directory = true := by
  induction way with
  | nil => cases mem
  | down _ _ there _ ih =>
    rcases List.mem_cons.1 mem with rfl | mem
    · exact there
    · exact ih mem

/-- A way begins with its root. -/
theorem Way.start_mem (way : g.Way start (directory :: above)) : start ∈ directory :: above := by
  induction above generalizing directory with
  | nil =>
    cases way with
    | down _ offers =>
      have same : directory = start := offers
      exact List.mem_singleton.2 same.symm
  | cons last above ih => exact List.mem_cons_of_mem directory (ih way.tail)

/-- The directories on a way really stand at different places. -/
theorem Way.nodup (way : g.Way start above) : (above.map g.realPath).Nodup := by
  induction way with
  | nil => exact List.nodup_nil
  | down _ _ _ apart ih => exact List.nodup_cons.2 ⟨apart, ih⟩

/-- No way is longer than there are places. -/
theorem Way.length_le (way : g.Way start above) : above.length ≤ g.places.length := by
  have inside : above.map g.realPath ⊆ g.places := by
    intro real mem
    obtain ⟨directory, on, rfl⟩ := List.mem_map.1 mem
    exact g.realPath_mem (way.isDirectory_of_mem on)
  have bound := (List.subperm_of_subset way.nodup inside).length_le
  rwa [List.length_map] at bound

/-- On a way from a normal path all paths are normal. -/
theorem Way.key_eq_of_mem (way : g.Way start above) (normal : g.key start = start)
    (mem : directory ∈ above) : g.key directory = directory := by
  induction way with
  | nil => cases mem
  | @down above last _ offers _ _ ih =>
    rcases List.mem_cons.1 mem with rfl | mem
    · cases above with
      | nil =>
        have same : directory = start := offers
        rw [same]
        exact normal
      | cons => exact offers.key_eq
    · exact ih mem

/-! ### Routes -/

/-- A route to one more directory. -/
theorem route_cons : g.Route seen start (directory :: above) ↔
    g.Route seen start above ∧ g.Offers start above directory ∧
      g.isDirectory directory = true ∧ g.realPath directory ∉ above.map g.realPath ∧
      g.key directory ∉ seen ∧ g.key directory ∉ above.map g.key := by
  constructor
  · rintro ⟨way, unseen, keys⟩
    obtain ⟨new, old⟩ := List.nodup_cons.1 keys
    obtain ⟨here, before⟩ := List.forall_mem_cons.1 unseen
    cases way with
    | down way offers there apart => exact ⟨⟨way, before, old⟩, offers, there, apart, here, new⟩
  · rintro ⟨⟨way, unseen, keys⟩, offers, there, apart, here, new⟩
    exact ⟨.down way offers there apart, List.forall_mem_cons.2 ⟨here, unseen⟩,
      List.nodup_cons.2 ⟨new, keys⟩⟩

/-- There is always the route that has not begun. -/
theorem route_nil : g.Route seen start [] :=
  ⟨.nil, fun _ mem => absurd mem List.not_mem_nil, List.nodup_nil⟩

/-- The part of a route that comes first. -/
theorem Route.tail (route : g.Route seen start (directory :: above)) : g.Route seen start above :=
  (route_cons.1 route).1

/-- The root comes once on a route. -/
theorem Route.key_ne (route : g.Route seen start (directory :: other :: above)) :
    g.key directory ≠ g.key start := by
  intro same
  obtain ⟨before, -, -, -, -, new⟩ := route_cons.1 route
  rw [same] at new
  exact new (List.mem_map_of_mem before.way.start_mem)

/-- A route is settled by the last path on it. -/
theorem Route.unique (route : g.Route seen start (directory :: above))
    (route' : g.Route seen start (other :: rest)) (same : g.key directory = g.key other) :
    directory = other ∧ above = rest := by
  induction above generalizing directory other rest with
  | nil =>
    have first : directory = start := (route_cons.1 route).2.1
    cases rest with
    | nil =>
      have first' : other = start := (route_cons.1 route').2.1
      exact ⟨first.trans first'.symm, rfl⟩
    | cons => exact absurd (same.symm.trans (congrArg g.key first)) route'.key_ne
  | cons last above ih =>
    obtain ⟨before, lists, -⟩ := route_cons.1 route
    cases rest with
    | nil =>
      have first' : other = start := (route_cons.1 route').2.1
      exact absurd (same.trans (congrArg g.key first')) route.key_ne
    | cons last' rest =>
      obtain ⟨before', lists', -⟩ := route_cons.1 route'
      have ends : directory = other := by
        rw [← lists.key_eq, ← lists'.key_eq]
        exact same
      have parents : g.key last = g.key last' := by
        rw [← lists.directory_eq, ← lists'.directory_eq, ends]
      obtain ⟨rfl, rfl⟩ := ih before before' parents
      exact ⟨ends, rfl⟩

/-- On a way from a normal path no path comes twice. -/
theorem Way.keys_nodup (way : g.Way start above) (normal : g.key start = start) :
    (above.map g.key).Nodup := by
  have keys : above.map g.key = above :=
    (List.map_congr_left fun _ mem => way.key_eq_of_mem normal mem).trans (List.map_id _)
  rw [keys]
  exact way.nodup.of_map g.realPath

/-- From a normal path every way is a route if nothing is remembered. -/
theorem Way.route (way : g.Way start above) (normal : g.key start = start) :
    g.Route ∅ start above :=
  ⟨way, fun _ _ => Set.notMem_empty _, way.keys_nodup normal⟩

end LiveCheck.Terrain
