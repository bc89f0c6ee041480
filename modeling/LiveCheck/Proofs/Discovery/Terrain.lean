import LiveCheck.Proofs.Attribution.Returning
import LiveCheck.Proofs.Disk.Listing
import LiveCheck.Proofs.Path.Parent
import LiveCheck.Proofs.Surroundings

/-!
# The ground that a walk goes over

A walk learns of the files by four questions: is this a directory, what is in it, where does it
really stand, and which file does a path resolve to.  A `Terrain` is a set of answers that do not
change.  Little is asked of it: directories have finitely many real paths, a directory that cannot
be listed refuses by a failed system call, what is listed has a normal path with this directory
before it, and a path resolves to the workspace's handle of it.  Links may lead anywhere, and
directories may refuse to be listed.

A workspace that nobody writes is a terrain, whichever of its directories are closed and in
whatever order the entries of a directory come (`Workspace.terrain`).

`Ensures` says what is sure to come of an action on a terrain: it ends with a result that has a
property, or else the scan was cancelled.
-/

namespace LiveCheck

open Program

/-- What a walk can learn of the files, the same all the time. -/
structure Terrain where
  cwd : String
  isDirectory : String → Bool
  realPath : String → String
  children : String → Except Fault (List String)
  resolve : String → Option Handle
  /-- The real paths of all directories. -/
  places : List String
  realPath_mem : ∀ {path}, isDirectory path = true → realPath path ∈ places
  isSystem_of_children : ∀ {path fault}, isDirectory path = true →
    children path = .error fault → fault.isSystem = true
  parent_of_mem : ∀ {path listed child}, children path = .ok listed → child ∈ listed →
    Path.normalize cwd child = child ∧ Path.directory child = Path.normalize cwd path
  eq_of_resolve : ∀ {path h}, resolve path = some h → h = Handle.forPath cwd path

namespace Terrain

variable {g : Terrain}

/-- The exchange is answered by the terrain.  Only directories are listed and followed. -/
def Answers (g : Terrain) : Exchange → Prop
  | ⟨.isDirectory path, reply⟩ => reply = .ok (g.isDirectory path)
  | ⟨.realPath path, reply⟩ => g.isDirectory path = true → reply = .ok (g.realPath path)
  | ⟨.children path, reply⟩ => g.isDirectory path = true → reply = g.children path
  | ⟨.resolve path, reply⟩ => reply = .ok (g.resolve path)
  | ⟨.directoryBound, reply⟩ => g.places.length ≤ reply
  | _ => True

/-- All exchanges are answered by the terrain. -/
def Shows (g : Terrain) (t : Trace) : Prop := ∀ e ∈ t, g.Answers e

/-- Two traces one after the other. -/
theorem shows_append {t₁ t₂ : Trace} : g.Shows (t₁ ++ t₂) ↔ g.Shows t₁ ∧ g.Shows t₂ :=
  List.forall_mem_append

/-- The answer of a terrain to a request, and by a rule what a terrain cannot answer. -/
def reply (g : Terrain) (others : (r : Request) → r.Reply) : (r : Request) → r.Reply
  | .isDirectory path => .ok (g.isDirectory path)
  | .realPath path => .ok (g.realPath path)
  | .children path => g.children path
  | .resolve path => .ok (g.resolve path)
  | .directoryBound => g.places.length
  | r => others r

/-- A program that is answered by a terrain is answered by it. -/
theorem shows_answered {α : Type} (g : Terrain) (others : (r : Request) → r.Reply)
    (p : Program α) : g.Shows (answered (g.reply others) p).1 := by
  intro ⟨r, reply⟩ he
  obtain ⟨-, same⟩ := replies_record (fun (_ : Unit) r => (g.reply others r, ())) () p ⟨r, reply⟩ he
  cases r with
  | isDirectory | resolve => exact same
  | realPath | children => exact fun _ => same
  | directoryBound => exact Nat.le_of_eq same.symm
  | _ => trivial

/-- It is not cancelled if the rule does not cancel it. -/
theorem not_cancelled_answered {α : Type} (g : Terrain) {others : (r : Request) → r.Reply}
    (passes : others .isCancelled = false) (p : Program α) :
    ⟨.isCancelled, true⟩ ∉ (answered (g.reply others) p).1 := by
  intro he
  obtain ⟨-, same⟩ := replies_record (fun (_ : Unit) r => (g.reply others r, ())) () p _ he
  have stopped : true = others .isCancelled := same
  rw [passes] at stopped
  cases stopped

/-! ### What is sure to come of an action -/

/-- The action ends with a result that has the property, or it is found cancelled. -/
def Ensures {α : Type} (g : Terrain) (a : Action α) (Q : α → Prop) : Prop :=
  ∀ t r, Runs a.attempt t r → g.Shows t →
    (∃ x, r = .ok x ∧ Q x) ∨ r = .error .scanCancelled ∧ ⟨.isCancelled, true⟩ ∈ t

section Ensures

variable {α β : Type} {P Q : α → Prop} {R : β → Prop}

/-- An action without requests ends with its result. -/
theorem ensures_pure {x : α} (h : Q x) : g.Ensures (pure x) Q := by
  intro t r run _
  obtain ⟨-, rfl⟩ := runs_attempt_pure.1 run
  exact Or.inl ⟨x, rfl, h⟩

/-- Two actions one after the other. -/
theorem Ensures.bind {a : Action α} {f : α → Action β} (first : g.Ensures a P)
    (next : ∀ x, P x → g.Ensures (f x) R) : g.Ensures (a >>= f) R := by
  intro t r run shows
  rcases runs_attempt_bind.1 run with ⟨t₁, t₂, x, rfl, run₁, run₂⟩ | ⟨fault, rfl, failed⟩
  · obtain ⟨shows₁, shows₂⟩ := shows_append.1 shows
    rcases first t₁ _ run₁ shows₁ with ⟨y, same, hy⟩ | ⟨stopped, -⟩
    · cases same
      rcases next x hy t₂ r run₂ shows₂ with found | ⟨stopped, token⟩
      · exact Or.inl found
      · exact Or.inr ⟨stopped, List.mem_append_right t₁ token⟩
    · cases stopped
  · rcases first t _ failed shows with ⟨y, same, -⟩ | ⟨stopped, token⟩
    · cases same
    · cases stopped
      exact Or.inr ⟨rfl, token⟩

/-- A weaker property. -/
theorem Ensures.mono {a : Action α} (h : g.Ensures a P) (weaker : ∀ x, P x → Q x) :
    g.Ensures a Q := by
  intro t r run shows
  rcases h t r run shows with ⟨x, same, hx⟩ | stopped
  · exact Or.inl ⟨x, same, weaker x hx⟩
  · exact Or.inr stopped

/-- An action that is not cancelled has a result. -/
theorem Ensures.returns {a : Action α} (h : g.Ensures a Q) {t : Trace} {r : Except Fault α}
    (run : Runs a.attempt t r) (shows : g.Shows t) (passes : ⟨.isCancelled, true⟩ ∉ t) :
    ∃ x, r = .ok x ∧ Q x :=
  (h t r run shows).resolve_right fun stopped => passes stopped.2

/-- An action that has a result has one with the property. -/
theorem Ensures.of_ok {a : Action α} (h : g.Ensures a Q) {t : Trace} {x : α}
    (run : Runs a.attempt t (.ok x)) (shows : g.Shows t) : Q x := by
  rcases h t _ run shows with ⟨y, same, hy⟩ | ⟨stopped, -⟩
  · cases same
    exact hy
  · cases stopped

/-- A check for cancellation. -/
theorem ensures_checkCancelled (cancellable : Bool) :
    g.Ensures (checkCancelled cancellable) fun _ => True := by
  unfold checkCancelled
  cases cancellable with
  | false => exact ensures_pure trivial
  | true =>
    intro t r run _
    obtain ⟨t₁, t₂, stop, rfl, token, rest⟩ := runs_attempt_ofTotal_bind.1 run
    obtain rfl := runs_request.1 token
    cases stop with
    | false =>
      obtain ⟨-, rfl⟩ := runs_attempt_pure.1 rest
      exact Or.inl ⟨(), rfl, trivial⟩
    | true =>
      obtain ⟨-, rfl⟩ := runs_attempt_throw.1 rest
      exact Or.inr ⟨rfl, List.mem_cons_self⟩

/-- The question whether a path is a directory. -/
theorem ensures_isDirectory (path : String) :
    g.Ensures (Action.ofProgram (.request (.isDirectory path))) (· = g.isDirectory path) := by
  intro t r run shows
  obtain rfl := runs_request.1 (runs_attempt_ofProgram.1 run)
  have answer : r = .ok (g.isDirectory path) := shows _ List.mem_cons_self
  exact Or.inl ⟨_, answer, rfl⟩

/-- The question for the handle of a path. -/
theorem ensures_resolve (path : String) :
    g.Ensures (Action.ofProgram (.request (.resolve path))) (· = g.resolve path) := by
  intro t r run shows
  obtain rfl := runs_request.1 (runs_attempt_ofProgram.1 run)
  have answer : r = .ok (g.resolve path) := shows _ List.mem_cons_self
  exact Or.inl ⟨_, answer, rfl⟩

/-- The question where a directory really stands. -/
theorem ensures_realPath {path : String} (directory : g.isDirectory path = true) :
    g.Ensures (Action.ofProgram (.request (.realPath path))) (· = g.realPath path) := by
  intro t r run shows
  obtain rfl := runs_request.1 (runs_attempt_ofProgram.1 run)
  have answer : r = .ok (g.realPath path) := shows _ List.mem_cons_self directory
  exact Or.inl ⟨_, answer, rfl⟩

/-- The question what is in a directory. -/
theorem ensures_children {path : String} (directory : g.isDirectory path = true) :
    g.Ensures (Action.ofTotal (.request (.children path))) (· = g.children path) := by
  intro t r run shows
  obtain ⟨listed, rfl, ask⟩ := runs_attempt_ofTotal.1 run
  obtain rfl := runs_request.1 ask
  exact Or.inl ⟨listed, rfl, shows _ List.mem_cons_self directory⟩

/-- The question for a bound. -/
theorem ensures_directoryBound :
    g.Ensures (Action.ofTotal (.request .directoryBound)) (g.places.length ≤ ·) := by
  intro t r run shows
  obtain ⟨bound, rfl, ask⟩ := runs_attempt_ofTotal.1 run
  obtain rfl := runs_request.1 ask
  exact Or.inl ⟨bound, rfl, shows _ List.mem_cons_self⟩

/-- Steps that are done one after the other: a property of the state that every step keeps, and
what each step brings about and no later one undoes. -/
theorem ensures_foldlM {f : β → α → Action β} (Inv : β → Prop) (Done : α → β → Prop)
    {as : List α} (step : ∀ b, ∀ a ∈ as, Inv b → g.Ensures (f b a) fun b' =>
      Inv b' ∧ Done a b' ∧ ∀ a', Done a' b → Done a' b') {b : β} (start : Inv b) :
    g.Ensures (as.foldlM f b) fun b' =>
      Inv b' ∧ (∀ a ∈ as, Done a b') ∧ ∀ a', Done a' b → Done a' b' := by
  induction as generalizing b with
  | nil =>
    refine ensures_pure ⟨start, ?_, ?_⟩
    · intro a ha
      cases ha
    · intro a done
      exact done
  | cons a rest ih =>
    rw [List.foldlM_cons]
    refine (step b a List.mem_cons_self start).bind ?_
    rintro b₁ ⟨inv, done, kept⟩
    refine (ih (fun b a' ha' => step b a' (List.mem_cons_of_mem _ ha')) inv).mono ?_
    rintro b₂ ⟨inv₂, all, kept₂⟩
    refine ⟨inv₂, ?_, ?_⟩
    · intro a' ha'
      rcases List.mem_cons.1 ha' with rfl | ha'
      · exact kept₂ _ done
      · exact all a' ha'
    · intro a' before
      exact kept₂ a' (kept a' before)

end Ensures

end Terrain

/-! ### Directories on a disk -/

namespace Disk

variable {d : Disk} {cwd path : String}

/-- The path of a directory has no null character. -/
theorem null_notMem_of_isDirectory (directory : d.isDirectory cwd path = true) :
    '\x00' ∉ path.toList := by
  intro null
  unfold isDirectory lookUp? at directory
  rw [if_pos null] at directory
  cases directory

/-- The real path of a directory is that of its place. -/
theorem exists_realPath (directory : d.isDirectory cwd path = true) :
    ∃ place, d.target? cwd path = some place ∧ d.entry? place = some .directory ∧
      d.realPath cwd path = pathOf place := by
  have named := null_notMem_of_isDirectory directory
  rw [target?_of_named named]
  unfold isDirectory lookUp? at directory
  rw [if_neg named] at directory
  unfold realPath
  split at directory
  · next place located =>
    rw [located]
    exact ⟨place, rfl, decide_eq_true_iff.1 directory, rfl⟩
  · cases directory

end Disk

/-! ### Workspaces -/

/-- How directories can be read: which of them are closed, and in which order the entries of the
others come. -/
structure Access where
  closed : String → Bool
  arrange : String → List String → List String
  perm : ∀ path paths, (arrange path paths).Perm paths

/-- All directories can be read, and their entries come in the order of their paths. -/
def Access.usual : Access where
  closed _ := false
  arrange _ paths := paths.mergeSort
  perm _ paths := List.mergeSort_perm paths _

/-- All directories can be read, and their entries come as they stand in the table. -/
def Access.plain : Access where
  closed _ := false
  arrange _ paths := paths
  perm _ _ := .refl _

/-- Names are names, buffers have normal paths, and the current directory is one that a system can
have. -/
structure Workspace.Proper (w : Workspace) : Prop where
  names : ∀ place ∈ w.disk.entries.keys, ∀ name ∈ place, Path.IsComponent name
  buffers : ∀ path ∈ w.documents.buffers.keys, Path.normalize w.cwd path = path
  cwd : '\x00' ∉ w.cwd.toList

namespace Workspace

variable {w : Workspace} {path : String}

/-- It can be checked whether a workspace is proper. -/
instance (w : Workspace) : Decidable w.Proper :=
  decidable_of_iff ((∀ place ∈ w.disk.entries.keys, ∀ name ∈ place, Path.IsComponent name) ∧
      (∀ path ∈ w.documents.buffers.keys, Path.normalize w.cwd path = path) ∧
      '\x00' ∉ w.cwd.toList)
    ⟨fun ⟨h₁, h₂, h₃⟩ => ⟨h₁, h₂, h₃⟩, fun ⟨h₁, h₂, h₃⟩ => ⟨h₁, h₂, h₃⟩⟩

/-- The normal form of a path without a null character has none. -/
theorem Proper.null_notMem (proper : w.Proper) (named : '\x00' ∉ path.toList) :
    '\x00' ∉ (Path.normalize w.cwd path).toList := by
  intro inside
  unfold Path.normalize Path.normalizeChars at inside
  rw [String.toList_ofList] at inside
  rcases Path.mem_normalizeAbsolute inside with slash | inside
  · cases slash
  · unfold Path.joinChars at inside
    split at inside
    · exact named inside
    · split at inside
      · rcases List.mem_append.1 inside with inside | inside
        · exact proper.cwd inside
        · exact named inside
      · rcases List.mem_append.1 inside with inside | inside
        · exact proper.cwd inside
        · rcases List.mem_cons.1 inside with slash | inside
          · cases slash
          · exact named inside

/-- A directory is not listed because a system call failed. -/
theorem Proper.isSystem_of_children (proper : w.Proper) {fault : Fault}
    (directory : w.disk.isDirectory w.cwd path = true)
    (failed : w.documents.children w.disk w.cwd path = .error fault) : fault.isSystem = true := by
  have normal := proper.null_notMem (Disk.null_notMem_of_isDirectory directory)
  unfold Documents.children at failed
  rcases bind_eq_error.1 failed with unlisted | ⟨_, -, listed⟩
  · unfold Disk.list at unlisted
    rcases bind_eq_error.1 unlisted with unlocated | ⟨target, -, other⟩
    · unfold Disk.locateOrFault at unlocated
      rw [if_neg normal] at unlocated
      cases located : w.disk.locate w.cwd (Path.normalize w.cwd path) true with
      | error number =>
        rw [located] at unlocated
        cases unlocated
        exact SystemError.isSystem_fault _ _
      | ok target =>
        rw [located] at unlocated
        cases unlocated
    · cases target with
      | absent parent name =>
        cases other
        exact SystemError.isSystem_fault _ _
      | found place =>
        dsimp only at other
        split at other
        · cases other
        · cases other
          exact SystemError.isSystem_fault _ _
  · cases listed

/-- What is listed in a directory has a normal path that begins with the directory. -/
theorem Proper.parent_of_mem (proper : w.Proper) {listed : List String} {child : String}
    (listing : w.documents.children w.disk w.cwd path = .ok listed) (mem : child ∈ listed) :
    Path.normalize w.cwd child = child ∧ Path.directory child = Path.normalize w.cwd path := by
  obtain ⟨names, named, same⟩ := bind_eq_ok.1 (show _ >>= _ = _ from listing)
  obtain rfl := Except.ok.inj same
  rcases List.mem_append.1 mem with onDisk | unsaved
  · obtain ⟨name, hname, rfl⟩ := List.mem_map.1 onDisk
    obtain ⟨place, -, -, rfl⟩ := Disk.list_eq_ok.1 named
    have there := Disk.mem_namesIn.1 hname
    have key := (Disk.mem_keys_iff (by simp)).2 there
    have component : Path.IsComponent name := proper.names _ key name (by simp)
    exact ⟨Path.normalize_join _ _ _ component, Path.directory_join _ _ component⟩
  · obtain ⟨key, inside⟩ := List.mem_filter.1 unsaved
    have here := (decide_eq_true_iff.1 inside).1
    exact ⟨proper.buffers child key, here⟩

/-- The real path of a directory is that of a place on the disk. -/
theorem realPath_mem (directory : w.disk.isDirectory w.cwd path = true) :
    w.disk.realPath w.cwd path ∈ ([] :: w.disk.entries.keys).map Disk.pathOf := by
  obtain ⟨place, -, there, stands⟩ := Disk.exists_realPath directory
  rw [stands]
  refine List.mem_map_of_mem ?_
  by_cases root : place = []
  · rw [root]
    exact List.mem_cons_self
  · refine List.mem_cons_of_mem _ ((Disk.mem_keys_iff root).2 ?_)
    rw [there]
    exact Option.some_ne_none _

/-- A path resolves to the workspace's handle of it. -/
theorem eq_of_resolve {h : Handle} (resolved : w.documents.resolve w.disk w.cwd path = some h) :
    h = Handle.forPath w.cwd path := by
  unfold Documents.resolve at resolved
  dsimp only at resolved
  split at resolved
  · exact (Option.some.inj resolved).symm
  · cases resolved

/-- The terrain of a workspace that can be read in this way. -/
def terrain (w : Workspace) (proper : w.Proper) (access : Access) : Terrain where
  cwd := w.cwd
  isDirectory := w.disk.isDirectory w.cwd
  realPath := w.disk.realPath w.cwd
  children path :=
    let directory := Path.normalize w.cwd path
    if access.closed directory then
      .error (SystemError.fault SystemError.accessDenied directory)
    else (w.documents.children w.disk w.cwd path).map (access.arrange directory)
  resolve := w.documents.resolve w.disk w.cwd
  places := ([] :: w.disk.entries.keys).map Disk.pathOf
  realPath_mem := realPath_mem
  isSystem_of_children directory failed := by
    dsimp only at failed
    split at failed
    · cases failed
      exact SystemError.isSystem_fault _ _
    · cases listing : w.documents.children w.disk w.cwd _ with
      | error fault =>
        rw [listing] at failed
        cases failed
        exact proper.isSystem_of_children directory listing
      | ok listed =>
        rw [listing] at failed
        cases failed
  parent_of_mem listing mem := by
    dsimp only at listing
    split at listing
    · cases listing
    · cases found : w.documents.children w.disk w.cwd _ with
      | error fault =>
        rw [found] at listing
        cases listing
      | ok listed =>
        rw [found] at listing
        cases listing
        exact proper.parent_of_mem found ((access.perm _ listed).mem_iff.1 mem)
  eq_of_resolve := eq_of_resolve

/-- A workspace answers as its terrain does. -/
theorem answers_terrain (proper : w.Proper) {w' : Workspace} {e : Exchange}
    (answered : Answered w e w') : (w.terrain proper .usual).Answers e := by
  obtain ⟨r, reply⟩ := e
  have told (tree : r.concern = .tree) : some (reply, w') = w.answer? r := by
    refine (answered.answer_eq (by simp [tree]) ?_).symm
    rintro stem extension directory rfl
    cases tree
  cases r with
  | isDirectory | resolve => exact congrArg Prod.fst (Option.some.inj (told rfl))
  | children path => exact fun _ => congrArg Prod.fst (Option.some.inj (told rfl))
  | realPath path =>
    intro directory
    have named : '\x00' ∉ path.toList := Disk.null_notMem_of_isDirectory directory
    exact (congrArg Prod.fst (Option.some.inj (told rfl))).trans (if_neg named)
  | directoryBound =>
    have bound : reply = w.directoryBound := congrArg Prod.fst (Option.some.inj (told rfl))
    have entries : (w.terrain proper .usual).places.length = w.disk.entries.length + 1 := by
      change ((([] : Place) :: w.disk.entries.keys).map Disk.pathOf).length = _
      unfold Table.keys
      simp
    change _ ≤ reply
    rw [entries, bound]
    change w.disk.entries.length + 1 ≤ w.disk.entries.length + Disk.maxPath
    exact Nat.add_le_add_left (by decide) _
  | _ => trivial

end Workspace

/-- What is answered from a workspace that stays as it is, is answered by its terrain. -/
theorem Follows.shows {w w' : Workspace} {t : Trace} (follows : Follows w t w')
    (about : Trace.About [.tree, .token] t) (proper : w.Proper) :
    (w.terrain proper .usual).Shows t := by
  induction follows with
  | nil => exact nofun
  | cons head tail ih =>
    obtain ⟨asked, others⟩ := List.forall_mem_cons.1 about
    have read := (List.subset_def.1 (show [Concern.tree, .token] ⊆
      [.tree, .text, .lock, .token, .log, .phase, .call] by simp)) asked
    obtain rfl := head.eq read
    exact List.forall_mem_cons.2 ⟨Workspace.answers_terrain proper head, ih others proper⟩

end LiveCheck
