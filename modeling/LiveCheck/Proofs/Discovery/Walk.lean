import LiveCheck.Proofs.Discovery
import LiveCheck.Proofs.Discovery.Way

/-!
# Where a walk leads

A walk visits a directory, looks at what is in it (`Discovery.visit`), and walks the directories
that are listed there.  On a terrain one visit does one of two things (`Terrain.ensures_visit`): it
passes over a directory that is remembered or that really stands above itself, or it remembers the
directory, adds its files and returns its directories.

While a walk is under way, some directories have been entered and not yet left.  `Midway` says what
holds then: everything that is remembered or found lies on a route, and whatever routes lead on from
a directory that was left, the walk has been there too.  When the walk is over nothing is left open,
so all routes have been walked (`Midway.complete`).  In this way the memory and the files after a
list of roots are described without the walk (`Terrain.ensures_discover`), and for one root they are
those that ways lead to.
-/

namespace LiveCheck

open Program (Runs)

/-! ### One visit -/

/-- A directory that is still to be visited, and the real paths of the directories above it. -/
structure Pending where
  directory : String
  ancestors : List String

namespace Discovery

/-- Visit a directory: what is found with its files added, and the directories in it that are now
to be visited. -/
def visit (cwd : String) (cancellable : Bool) (found : Discovered) (next : Pending) :
    Action (List Pending × Discovered) := do
  checkCancelled cancellable
  let key := Path.normalize cwd next.directory
  let real ← Action.ofProgram (.request (.realPath next.directory))
  if key ∈ found.visited ∨ real ∈ next.ancestors then pure ([], found)
  else
    let found := { found with visited := key :: found.visited }
    match ← Action.ofTotal (.request (.children next.directory)) with
    | .error fault => if fault.isSystem then pure ([], found) else throw fault
    | .ok children =>
      let (inner, found) ← look [] found children
      pure (inner.map fun child => ⟨child, real :: next.ancestors⟩, found)

/-- To walk a directory is to visit it and to walk what is then to be visited. -/
theorem walk_succ (cwd : String) (cancellable : Bool) (depth : Nat) (found : Discovered)
    (next : Pending) :
    walk cwd cancellable (depth + 1) next.ancestors found next.directory =
      visit cwd cancellable found next >>= fun visited => visited.1.foldlM (fun found inner =>
        walk cwd cancellable depth inner.ancestors found inner.directory) visited.2 := by
  unfold visit
  conv_lhs => unfold walk
  rw [bind_assoc]
  refine bind_congr fun _ => ?_
  rw [bind_assoc]
  refine bind_congr fun real => ?_
  split
  · rw [pure_bind]
    rfl
  · rw [bind_assoc]
    refine bind_congr fun listed => ?_
    cases listed with
    | error fault =>
      dsimp only
      split
      · rw [pure_bind]
        rfl
      · rfl
    | ok children =>
      dsimp only
      rw [bind_assoc]
      refine bind_congr fun looked => ?_
      rw [pure_bind, List.foldlM_map]

end Discovery

/-- One more file is found. -/
theorem Discovered.mem_add {found : Discovered} {h k : Handle} :
    h ∈ (found.add k).files ↔ h ∈ found.files ∨ h = k := by
  unfold add
  split
  · next old =>
    constructor
    · exact Or.inl
    · rintro (mem | rfl)
      · exact mem
      · exact old
  · rw [List.mem_append, List.mem_singleton]

/-- What a path resolves to is found. -/
theorem Discovered.mem_addResolved {found : Discovered} {resolved : Option Handle} {h : Handle} :
    h ∈ (found.addResolved resolved).files ↔ h ∈ found.files ∨ resolved = some h := by
  cases resolved with
  | none => simp [addResolved]
  | some k => rw [addResolved, mem_add, Option.some_inj, eq_comm (a := h)]

/-- To find a file is no visit. -/
theorem Discovered.visited_addResolved (found : Discovered) (resolved : Option Handle) :
    (found.addResolved resolved).visited = found.visited := by
  cases resolved with
  | none => rfl
  | some k =>
    change (found.add k).visited = _
    unfold add
    split <;> rfl

/-- The paths that are remembered. -/
def Discovered.seen (found : Discovered) : Set String := {path | path ∈ found.visited}

namespace Discovered

variable {found found' : Discovered}

/-- Nothing is forgotten and no file is lost. -/
structure Grows (found found' : Discovered) : Prop where
  seen : found.seen ⊆ found'.seen
  files : found.files ⊆ found'.files

/-- Nothing is lost where nothing happens. -/
theorem Grows.refl (found : Discovered) : found.Grows found :=
  ⟨subset_rfl, List.Subset.refl _⟩

/-- Nothing is lost in two steps if nothing is lost in either. -/
theorem Grows.trans {found₁ found₂ found₃ : Discovered} (first : found₁.Grows found₂)
    (next : found₂.Grows found₃) : found₁.Grows found₃ :=
  ⟨Set.Subset.trans first.seen next.seen, List.Subset.trans first.files next.files⟩

/-- One more path is remembered. -/
theorem mem_seen_cons {key : String} (visited : found'.visited = key :: found.visited)
    (path : String) : path ∈ found'.seen ↔ path = key ∨ path ∈ found.seen := by
  change path ∈ found'.visited ↔ _
  rw [visited, List.mem_cons]
  rfl

/-- One more path is remembered, and maybe more files are found. -/
theorem grows_of_cons {key : String} {P : Handle → Prop}
    (visited : found'.visited = key :: found.visited)
    (files : ∀ h, h ∈ found'.files ↔ h ∈ found.files ∨ P h) : found.Grows found' :=
  ⟨fun path mem => (mem_seen_cons visited path).2 (Or.inr mem),
    fun h mem => (files h).2 (Or.inl mem)⟩

end Discovered

namespace Terrain

variable {g : Terrain} {cancellable : Bool} {found found' before : Discovered}
  {start directory : String} {above : List String} {h : Handle}

/-- The children of a directory are told apart: files are added, directories are returned. -/
theorem ensures_look (inner children : List String) :
    g.Ensures (Discovery.look inner found children) fun looked =>
      looked.2.visited = found.visited ∧
      (∀ h, h ∈ looked.2.files ↔ h ∈ found.files ∨
        ∃ path ∈ children, g.isDirectory path = false ∧ g.resolve path = some h) ∧
      ∀ path, path ∈ looked.1 ↔ path ∈ inner ∨ path ∈ children ∧ g.isDirectory path = true := by
  induction children generalizing inner found with
  | nil =>
    refine ensures_pure ⟨rfl, ?_, ?_⟩
    · simp
    · simp
  | cons child rest ih =>
    refine (ensures_isDirectory child).bind ?_
    rintro _ rfl
    cases kind : g.isDirectory child with
    | true =>
      rw [if_pos rfl]
      refine (ih (child :: inner)).mono ?_
      rintro looked ⟨visited, files, directories⟩
      refine ⟨visited, ?_, ?_⟩
      · intro h
        simp [files, kind]
      · intro path
        rw [directories]
        by_cases same : path = child <;> simp [same, kind]
    | false =>
      rw [if_neg Bool.false_ne_true]
      refine (ensures_resolve child).bind ?_
      rintro _ rfl
      refine (ih inner).mono ?_
      rintro looked ⟨visited, files, directories⟩
      refine ⟨visited.trans (found.visited_addResolved _), ?_, ?_⟩
      · intro h
        simp [files, Discovered.mem_addResolved, kind, or_assoc]
      · intro path
        rw [directories]
        by_cases same : path = child <;> simp [same, kind]

/-- What a visit of a directory brings about: the directory is passed over, or it is remembered, its
files are found and its directories are to be visited. -/
inductive Visited (g : Terrain) (found : Discovered) (next : Pending) :
    List Pending × Discovered → Prop where
  | passed (known : g.key next.directory ∈ found.visited ∨
        g.realPath next.directory ∈ next.ancestors) : Visited g found next ([], found)
  | entered {inner : List Pending} {found' : Discovered}
      (new : g.key next.directory ∉ found.visited)
      (apart : g.realPath next.directory ∉ next.ancestors)
      (visited : found'.visited = g.key next.directory :: found.visited)
      (files : ∀ h, h ∈ found'.files ↔ h ∈ found.files ∨ g.Has next.directory h)
      (inside : ∀ path ancestors, ⟨path, ancestors⟩ ∈ inner ↔
        (g.Lists next.directory path ∧ g.isDirectory path = true) ∧
          ancestors = g.realPath next.directory :: next.ancestors) :
      Visited g found next (inner, found')

/-- A visit of a directory on a terrain. -/
theorem ensures_visit {next : Pending} (there : g.isDirectory next.directory = true) :
    g.Ensures (Discovery.visit g.cwd cancellable found next) (g.Visited found next) := by
  refine (ensures_checkCancelled cancellable).bind ?_
  intro _ _
  refine (ensures_realPath there).bind ?_
  rintro _ rfl
  split
  · next known => exact ensures_pure (.passed known)
  · next unknown =>
    obtain ⟨new, apart⟩ := not_or.1 unknown
    refine (ensures_children there).bind ?_
    rintro _ rfl
    cases listing : g.children next.directory with
    | error fault =>
      have closed : ∀ path, ¬ g.Lists next.directory path := by
        rintro path ⟨listed, ok, -⟩
        rw [listing] at ok
        cases ok
      dsimp only
      rw [if_pos (g.isSystem_of_children there listing)]
      refine ensures_pure (.entered new apart rfl ?_ ?_)
      · intro h
        have none : ¬ g.Has next.directory h := fun ⟨path, lists, _⟩ => closed path lists
        simp [none]
      · intro path ancestors
        simp [closed path]
    | ok children =>
      have lists : ∀ path, g.Lists next.directory path ↔ path ∈ children := by
        intro path
        constructor
        · rintro ⟨listed, ok, mem⟩
          rw [listing] at ok
          cases ok
          exact mem
        · intro mem
          exact ⟨children, listing, mem⟩
      dsimp only
      refine (ensures_look [] children).bind ?_
      rintro ⟨inner, found'⟩ ⟨visited, files, directories⟩
      refine ensures_pure (.entered new apart visited ?_ ?_)
      · intro h
        rw [files]
        simp only [Has, lists]
      · intro path ancestors
        have inside := directories path
        simp only [List.not_mem_nil, false_or] at inside
        rw [lists, ← inside]
        simp [eq_comm]

/-! ### Directories that are entered and left -/

/-- What holds of a walk from `start` while the directories `above` have been entered and not yet
left, and `before` is what was found before the walk. -/
structure Midway (g : Terrain) (before : Discovered) (start : String) (above : List String)
    (found : Discovered) : Prop where
  grows : before.Grows found
  walked : ∀ path ∈ found.seen, path ∈ before.seen ∨
    ∃ directory rest, g.Route before.seen start (directory :: rest) ∧ g.key directory = path
  listed : ∀ h ∈ found.files, h ∈ before.files ∨
    ∃ directory rest, g.Route before.seen start (directory :: rest) ∧ g.Has directory h
  entered : ∀ directory ∈ above, g.key directory ∈ found.seen
  left : ∀ directory rest, g.Route before.seen start (directory :: rest) →
    g.key directory ∈ found.seen → g.key directory ∉ above.map g.key →
    (∀ h, g.Has directory h → h ∈ found.files) ∧
      ∀ child, g.Route before.seen start (child :: directory :: rest) → g.key child ∈ found.seen

/-- Before a walk no directory is entered. -/
theorem midway_start (before : Discovered) : g.Midway before start [] before where
  grows := .refl before
  walked _ mem := Or.inl mem
  listed _ mem := Or.inl mem
  entered _ mem := absurd mem List.not_mem_nil
  left _ _ route seen _ := absurd seen (route_cons.1 route).2.2.2.2.1

/-- What was not remembered may be entered: this is one more step on the route. -/
theorem Midway.route (mid : g.Midway before start above found)
    (route : g.Route before.seen start above) (offers : g.Offers start above directory)
    (there : g.isDirectory directory = true) (new : g.key directory ∉ found.seen)
    (apart : g.realPath directory ∉ above.map g.realPath) :
    g.Route before.seen start (directory :: above) := by
  refine route_cons.2 ⟨route, offers, there, apart, ?_, ?_⟩
  · intro old
    exact new (mid.grows.seen old)
  · intro again
    obtain ⟨last, on, same⟩ := List.mem_map.1 again
    rw [← same] at new
    exact new (mid.entered last on)

/-- A directory is entered: it is remembered, and its files are found. -/
theorem Midway.enter (mid : g.Midway before start above found)
    (route : g.Route before.seen start (directory :: above))
    (visited : found'.visited = g.key directory :: found.visited)
    (files : ∀ h, h ∈ found'.files ↔ h ∈ found.files ∨ g.Has directory h) :
    g.Midway before start (directory :: above) found' := by
  have seen := Discovered.mem_seen_cons visited
  have more : found.Grows found' := Discovered.grows_of_cons visited files
  refine ⟨mid.grows.trans more, ?walked, ?listed, ?entered, ?left⟩
  case walked =>
    intro path mem
    rcases (seen path).1 mem with rfl | mem
    · exact Or.inr ⟨directory, above, route, rfl⟩
    · exact mid.walked path mem
  case listed =>
    intro h mem
    rcases (files h).1 mem with mem | has
    · exact mid.listed h mem
    · exact Or.inr ⟨directory, above, route, has⟩
  case entered =>
    intro last on
    rcases List.mem_cons.1 on with rfl | on
    · exact (seen _).2 (Or.inl rfl)
    · exact more.seen (mid.entered last on)
  case left =>
    intro last rest way mem out
    obtain ⟨other, out⟩ := not_or.1 (mt List.mem_cons.2 out)
    have old : g.key last ∈ found.seen := ((seen _).1 mem).resolve_left other
    obtain ⟨has, next⟩ := mid.left last rest way old out
    exact ⟨fun h mem => more.files (has h mem), fun child on => more.seen (next child on)⟩

/-- A directory is left when its files are found and its directories were walked. -/
theorem Midway.leave (mid : g.Midway before start (directory :: above) found)
    (route : g.Route before.seen start (directory :: above))
    (files : ∀ h, g.Has directory h → h ∈ found.files)
    (inside : ∀ path, g.Lists directory path → g.isDirectory path = true →
      g.key path ∈ found.seen ∨ g.realPath path ∈ (directory :: above).map g.realPath) :
    g.Midway before start above found := by
  refine ⟨mid.grows, mid.walked, mid.listed, ?entered, ?left⟩
  case entered =>
    intro last on
    exact mid.entered last (List.mem_cons_of_mem _ on)
  case left =>
    intro last rest way mem out
    by_cases same : g.key last = g.key directory
    · -- The last path settles the route, so this is the directory that is left.
      obtain ⟨rfl, rfl⟩ := way.unique route same
      refine ⟨files, ?_⟩
      intro child on
      obtain ⟨-, lists, there, apart, -⟩ := route_cons.1 on
      exact (inside child lists there).resolve_right apart
    · refine mid.left last rest way mem ?_
      intro on
      rcases List.mem_cons.1 on with on | on
      · exact same on
      · exact out on

/-- Once everything has been left, all routes have been walked if the first directory was. -/
theorem Midway.complete (mid : g.Midway before start [] found) {rest : List String}
    (root : g.Route before.seen start [start] → g.key start ∈ found.seen)
    (route : g.Route before.seen start (directory :: rest)) :
    g.key directory ∈ found.seen ∧ ∀ h, g.Has directory h → h ∈ found.files := by
  have reached : g.key directory ∈ found.seen := by
    induction rest generalizing directory with
    | nil =>
      obtain rfl : directory = start := (route_cons.1 route).2.1
      exact root route
    | cons last rest ih =>
      exact (mid.left last rest route.tail (ih route.tail) List.not_mem_nil).2 directory route
  exact ⟨reached, (mid.left directory rest route reached List.not_mem_nil).1⟩

/-- A walk leaves what it enters, and remembers its directory unless that really stands above
itself.  It is never too deep: ways are no longer than there are places. -/
theorem ensures_walk {depth : Nat} (route : g.Route before.seen start above)
    (offers : g.Offers start above directory) (there : g.isDirectory directory = true)
    (deep : g.places.length < depth + above.length) (mid : g.Midway before start above found) :
    g.Ensures (Discovery.walk g.cwd cancellable depth (above.map g.realPath) found directory)
      fun found' => g.Midway before start above found' ∧ found.Grows found' ∧
        (g.key directory ∈ found'.seen ∨ g.realPath directory ∈ above.map g.realPath) := by
  induction depth generalizing above directory found with
  | zero =>
    have short := route.way.length_le
    omega
  | succ depth ih =>
    rw [Discovery.walk_succ g.cwd cancellable depth found ⟨directory, above.map g.realPath⟩]
    refine (ensures_visit there).bind ?_
    intro visited outcome
    cases outcome with
    | passed known => exact ensures_pure ⟨mid, .refl found, known⟩
    | @entered inner found₁ new apart remembered files inside =>
      have route₁ := mid.route route offers there new apart
      have mid₁ := mid.enter route₁ remembered files
      have grows₁ : found.Grows found₁ := Discovered.grows_of_cons remembered files
      -- Each inner walk keeps the invariant, and nothing that one of them did is undone.
      refine (ensures_foldlM
        (fun found₂ => g.Midway before start (directory :: above) found₂ ∧ found₁.Grows found₂)
        (fun next found₂ => g.key next.directory ∈ found₂.seen ∨
          g.realPath next.directory ∈ (directory :: above).map g.realPath) ?_
        ⟨mid₁, .refl found₁⟩).mono ?_
      · rintro found₂ ⟨path, ancestors⟩ mem ⟨mid₂, grows₂⟩
        obtain ⟨⟨lists, below⟩, rfl⟩ := (inside path ancestors).1 mem
        have deeper : g.places.length < depth + (directory :: above).length := by
          rw [List.length_cons]
          omega
        refine (ih route₁ lists below deeper mid₂).mono ?_
        rintro found₃ ⟨mid₃, grows₃, done⟩
        exact ⟨⟨mid₃, grows₂.trans grows₃⟩, done, fun _ old => old.imp_left (grows₃.seen ·)⟩
      · rintro found₂ ⟨⟨mid₂, grows₂⟩, done, -⟩
        refine ⟨mid₂.leave route₁ ?_ ?_, grows₁.trans grows₂, Or.inl ?_⟩
        · intro h has
          exact grows₂.files ((files h).2 (Or.inr has))
        · intro path lists below
          exact done ⟨path, _⟩ ((inside path _).2 ⟨⟨lists, below⟩, rfl⟩)
        · exact mid₂.entered directory List.mem_cons_self

/-! ### Roots -/

/-- What is remembered after the walk of a root: the paths on all routes are added. -/
def remembered (g : Terrain) (seen : Set String) (root : Root) : Set String :=
  seen ∪ {path | ∃ directory above, g.Route seen (root.start g.cwd) (directory :: above) ∧
    g.key directory = path}

/-- The files that are found under a path if this is remembered: the one that it resolves to, or
those in the directories that a route leads to. -/
inductive Reaches (g : Terrain) (seen : Set String) (start : String) (h : Handle) : Prop where
  | file (single : g.isDirectory start = false) (resolved : g.resolve start = some h)
  | inside {directory : String} {above : List String}
      (route : g.Route seen start (directory :: above)) (has : g.Has directory h)

/-- The files that are found under roots, one after the other, if this is remembered. -/
def Gathers (g : Terrain) (h : Handle) : Set String → List Root → Prop
  | _, [] => False
  | seen, root :: rest =>
    g.Reaches seen (root.start g.cwd) h ∨ g.Gathers h (g.remembered seen root) rest

/-- The walk of a root goes all routes. -/
theorem ensures_walkRoot {depth : Nat} (deep : g.places.length < depth) (root : Root) :
    g.Ensures (Discovery.walkRoot g.cwd cancellable depth found root) fun found' =>
      found'.seen = g.remembered found.seen root ∧
        ∀ h, h ∈ found'.files ↔ h ∈ found.files ∨ g.Reaches found.seen (root.start g.cwd) h := by
  refine (ensures_checkCancelled cancellable).bind ?_
  intro _ _
  refine (ensures_isDirectory _).bind ?_
  rintro _ rfl
  cases kind : g.isDirectory (root.start g.cwd) with
  | true =>
    rw [if_pos rfl]
    refine (ensures_walk route_nil rfl kind deep (midway_start found)).mono ?_
    rintro found' ⟨mid, -, known⟩
    have first : g.key (root.start g.cwd) ∈ found'.seen := known.resolve_right List.not_mem_nil
    have complete : ∀ {directory rest},
        g.Route found.seen (root.start g.cwd) (directory :: rest) → _ :=
      mid.complete fun _ => first
    refine ⟨Set.Subset.antisymm ?_ ?_, ?_⟩
    · intro path mem
      exact mid.walked path mem
    · rintro path (old | ⟨directory, rest, route, rfl⟩)
      · exact mid.grows.seen old
      · exact (complete route).1
    · intro h
      constructor
      · intro mem
        refine (mid.listed h mem).imp_right ?_
        rintro ⟨directory, rest, route, has⟩
        exact .inside route has
      · rintro (old | ⟨single, -⟩ | ⟨route, has⟩)
        · exact mid.grows.files old
        · rw [kind] at single
          cases single
        · exact (complete route).2 h has
  | false =>
    rw [if_neg Bool.false_ne_true]
    have nowhere : ∀ {directory rest},
        ¬ g.Route found.seen (root.start g.cwd) (directory :: rest) := by
      intro directory rest route
      have there := route.way.isDirectory_of_mem route.way.start_mem
      rw [kind] at there
      cases there
    refine (ensures_resolve _).bind ?_
    rintro _ rfl
    refine ensures_pure ⟨?_, ?_⟩
    · unfold Discovered.seen
      rw [Discovered.visited_addResolved]
      refine Set.Subset.antisymm (fun path mem => Or.inl mem) ?_
      rintro path (old | ⟨directory, rest, route, -⟩)
      · exact old
      · exact absurd route nowhere
    · intro h
      rw [Discovered.mem_addResolved]
      constructor
      · exact Or.imp_right fun resolved => .file kind resolved
      · rintro (old | ⟨-, resolved⟩ | ⟨route, -⟩)
        · exact Or.inl old
        · exact Or.inr resolved
        · exact absurd route nowhere

/-- The walks of roots one after the other. -/
theorem ensures_walkRoots {depth : Nat} (deep : g.places.length < depth) (roots : List Root) :
    g.Ensures (roots.foldlM (Discovery.walkRoot g.cwd cancellable depth) found) fun found' =>
      ∀ h, h ∈ found'.files ↔ h ∈ found.files ∨ g.Gathers h found.seen roots := by
  induction roots generalizing found with
  | nil =>
    refine ensures_pure ?_
    intro h
    simp [Gathers]
  | cons root rest ih =>
    rw [List.foldlM_cons]
    refine (ensures_walkRoot deep root).bind ?_
    rintro found₁ ⟨seen, files⟩
    refine ih.mono ?_
    intro found₂ more h
    rw [more, files, seen, or_assoc]
    rfl

/-- Discovery ends with the files that are found under the roots, unless it is cancelled. -/
theorem ensures_discover (roots : List Root) :
    g.Ensures (Discovery.discover g.cwd cancellable roots) fun found =>
      ∀ h, h ∈ found.files ↔ g.Gathers h ∅ roots := by
  refine ensures_directoryBound.bind ?_
  intro bound enough
  refine (ensures_walkRoots (Nat.lt_succ_of_le enough) roots).mono ?_
  intro found files h
  have none : (({} : Discovered).seen : Set String) = ∅ :=
    Set.eq_empty_of_forall_notMem fun _ => List.not_mem_nil
  rw [files, none]
  exact or_iff_right List.not_mem_nil

/-- The result of discovery where all is answered by the terrain and nobody cancels. -/
def discovered (g : Terrain) (roots : List Root) : Except Fault Discovered :=
  (Program.answered (g.reply Request.nothing) (Discovery.discover g.cwd true roots).attempt).2

/-- It is the result of a run. -/
theorem exists_runs_discovered (g : Terrain) (roots : List Root) : ∃ t,
    Runs (Discovery.discover g.cwd true roots).attempt t (g.discovered roots) ∧ g.Shows t ∧
      ⟨.isCancelled, true⟩ ∉ t :=
  ⟨_, Program.runs_answered (g.reply Request.nothing) _, g.shows_answered Request.nothing _,
    g.not_cancelled_answered rfl _⟩

/-! ### One root -/

/-- From a normal path all files are found that ways lead to, if nothing is remembered. -/
theorem reaches_iff_finds (normal : g.key start = start) :
    g.Reaches ∅ start h ↔ g.Finds start h := by
  constructor
  · rintro (⟨single, resolved⟩ | ⟨route, has⟩)
    · exact .file single resolved
    · exact .inside route.way has
  · rintro (⟨single, resolved⟩ | ⟨way, has⟩)
    · exact .file single resolved
    · exact .inside (way.route normal) has

/-- What is found under a normal path is no directory. -/
theorem Finds.isDirectory_eq (finds : g.Finds start h) (normal : g.key start = start) :
    g.isDirectory h.path = false := by
  cases finds with
  | file single resolved =>
    have same : h.path = start := by
      rw [g.eq_of_resolve resolved]
      exact normal
    rw [same]
    exact single
  | inside _ has => exact has.isDirectory_eq

/-- Discovery from one root is exact.  It ends, with each file once, and its files are those that
the root's path resolves to or that stand in a directory which a way leads to: links are followed
under their own paths, and only back to a directory on the way they are not.  No directory is
among the files. -/
theorem exact_of_root (g : Terrain) (cancellable : Bool) (text : String) {t : Trace}
    {r : Except Fault Discovered}
    (run : Runs (Discovery.discover g.cwd cancellable [.path text]).attempt t r)
    (shows : g.Shows t) (passes : ⟨.isCancelled, true⟩ ∉ t) :
    ∃ found, r = .ok found ∧ found.files.Nodup ∧
      (∀ h, h ∈ found.files ↔ g.Finds (Path.normalize g.cwd text) h) ∧
      ∀ h ∈ found.files, g.isDirectory h.path = false := by
  obtain ⟨found, rfl, files⟩ := (ensures_discover [.path text]).returns run shows passes
  have normal : g.key (Path.normalize g.cwd text) = Path.normalize g.cwd text := key_key text
  have finds : ∀ h, h ∈ found.files ↔ g.Finds (Path.normalize g.cwd text) h := by
    intro h
    rw [files, ← reaches_iff_finds normal]
    exact or_iff_left id
  have known : found.Known fun _ => True :=
    Discovery.known_discover run fun _ _ _ _ _ => trivial
  refine ⟨found, rfl, known.nodup, finds, ?_⟩
  intro h mem
  exact ((finds h).1 mem).isDirectory_eq normal

/-- Directories one in the other, links around in a circle and to the outside, a link to nowhere,
a closed directory and two files that are not saved. -/
def tangle : Workspace where
  disk := { entries :=
    [(["p".toList], .directory), (["p".toList, "a.py".toList], .file []),
      (["p".toList, "q".toList], .directory), (["p".toList, "q".toList, "b.py".toList], .file []),
      (["p".toList, "q".toList, "up".toList], .link "/p"),
      (["p".toList, "side".toList], .link "/t"), (["p".toList, "gone".toList], .link "/nowhere"),
      (["p".toList, "shut".toList], .directory),
      (["p".toList, "shut".toList, "d.py".toList], .file []), (["t".toList], .directory),
      (["t".toList, "c.py".toList], .file []), (["t".toList, "back".toList], .link "/p/q")] }
  documents := { defaultEncoding := "utf-8", encodings := [],
                 buffers := [("/p/new.py", "x"), ("/p/q/late.py", "y")] }
  cwd := "/"
  temporaryDirectory := "/tmp"

/-- One directory is closed, and the others give their entries in reverse order. -/
def reversed : Access where
  closed path := path = "/p/shut"
  arrange _ paths := paths.reverse
  perm _ paths := paths.reverse_perm

/-- The links are among names that a system has. -/
theorem proper_tangle : tangle.Proper := by decide +kernel

/-- The link back to the root is not followed, the other links are, under their own paths. -/
theorem exact_in_tangle : ∃ found,
    (tangle.terrain proper_tangle reversed).discovered [.path "/p"] = .ok found ∧
    found.files.map (·.path) = ["/p/new.py", "/p/a.py", "/p/q/late.py", "/p/q/b.py",
      "/p/side/c.py", "/p/side/back/b.py"] ∧
    ∀ h, h ∈ found.files ↔ (tangle.terrain proper_tangle reversed).Finds "/p" h := by
  let g := tangle.terrain proper_tangle reversed
  obtain ⟨t, run, shows, passes⟩ := g.exists_runs_discovered [.path "/p"]
  obtain ⟨found, same, -, finds, -⟩ := exact_of_root g true "/p" run shows passes
  have paths : (g.discovered [.path "/p"]).map (·.files.map (·.path)) =
      .ok ["/p/new.py", "/p/a.py", "/p/q/late.py", "/p/q/b.py", "/p/side/c.py",
        "/p/side/back/b.py"] := by
    decide +kernel
  have root : Path.normalize g.cwd "/p" = "/p" := by decide +kernel
  rw [root] at finds
  rw [same] at paths
  exact ⟨found, same, Except.ok.inj paths, finds⟩

end Terrain

/-- In a workspace that nobody writes discovery finds the files that are gathered on its terrain. -/
theorem Workspace.mem_discovered {w w' : Workspace} (proper : w.Proper) {cancellable : Bool}
    {roots : List Root} {found : Discovered} {t : Trace}
    (run : Runs (Discovery.discover w.cwd cancellable roots).attempt t (.ok found))
    (follows : Follows w t w') (h : Handle) :
    h ∈ found.files ↔ (w.terrain proper .usual).Gathers h ∅ roots := by
  have about : Trace.About [.tree, .token] t := run.about (Discovery.discover_asks _ _ _)
  let g := w.terrain proper .usual
  have ensured : g.Ensures (Discovery.discover w.cwd cancellable roots) fun found =>
      ∀ h, h ∈ found.files ↔ g.Gathers h ∅ roots := Terrain.ensures_discover roots
  exact ensured.of_ok run (follows.shows about proper) h

end LiveCheck
