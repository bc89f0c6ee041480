import Mathlib.Data.Multiset.DershowitzManna
import LiveCheck.Proofs.Discovery.Walk
import LiveCheck.Proofs.Path.Containment

/-!
# The loop of a walk, and why it ends

A walk goes down by recursion, to a depth that it asks for.  The same walk is a loop over a stack of
directories that are still to be visited, with no bound on its turns (`Discovery.Loop`,
`Discovery.loop_of_walk`).

The paths that are remembered do not bound the loop: links in a circle give new paths without end.
What bounds it are the real paths of the directories above a pending one.  No two of them are the
same, so each turn takes a directory from the stack and pushes only such that have fewer places left
(`Pending.rank`).  A stack on which something is replaced by any number of smaller things cannot go
on for ever, hence no sequence of turns can (`Terrain.wellFounded_turn`).
-/

namespace LiveCheck

open Program (Runs)

namespace Discovery

variable {cwd : String} {cancellable : Bool} {found : Discovered} {next : Pending}
  {stack : List Pending} {t t' : Trace} {r r' : Except Fault Discovered}

/-! ### The loop -/

/-- Visit what is on top of the stack until nothing is left: the runs of the loop. -/
inductive Loop (cwd : String) (cancellable : Bool) :
    List Pending → Discovered → Trace → Except Fault Discovered → Prop where
  | done (found : Discovered) : Loop cwd cancellable [] found [] (.ok found)
  | turn {stack inner : List Pending} {next : Pending} {found found' : Discovered} {t t' : Trace}
      {r : Except Fault Discovered}
      (run : Runs (visit cwd cancellable found next).attempt t (.ok (inner, found')))
      (rest : Loop cwd cancellable (inner ++ stack) found' t' r) :
      Loop cwd cancellable (next :: stack) found (t ++ t') r
  | stopped {stack : List Pending} {next : Pending} {found : Discovered} {t : Trace}
      {fault : Fault} (run : Runs (visit cwd cancellable found next).attempt t (.error fault)) :
      Loop cwd cancellable (next :: stack) found t (.error fault)

/-- How the loop goes on behind a part that ended so: over the rest of the stack, unless that part
failed. -/
def Onward (cwd : String) (cancellable : Bool) (stack : List Pending) :
    Except Fault Discovered → Trace → Except Fault Discovered → Prop
  | .ok found, t, r => Loop cwd cancellable stack found t r
  | .error fault, t, r => t = [] ∧ r = .error fault

/-- Directories that are walked one after the other are visited by the loop in the same order, if
each of them is. -/
theorem loop_of_foldlM {walkOne : Discovered → Pending → Action Discovered} {pending : List Pending}
    (step : ∀ {found next stack t r t' r'}, Runs (walkOne found next).attempt t r →
      r ≠ .error .tooDeep → Onward cwd cancellable stack r t' r' →
      Loop cwd cancellable (next :: stack) found (t ++ t') r')
    (run : Runs (pending.foldlM walkOne found).attempt t r) (shallow : r ≠ .error .tooDeep)
    (onward : Onward cwd cancellable stack r t' r') :
    Loop cwd cancellable (pending ++ stack) found (t ++ t') r' := by
  induction pending generalizing found t with
  | nil =>
    obtain ⟨rfl, rfl⟩ := Program.runs_attempt_pure.1 run
    exact onward
  | cons next rest ih =>
    rw [List.foldlM_cons] at run
    rcases Program.runs_attempt_bind.1 run with ⟨t₁, t₂, found₁, rfl, first, others⟩ |
      ⟨fault, rfl, first⟩
    · rw [List.append_assoc]
      exact step first (by simp) (ih others)
    · obtain ⟨rfl, rfl⟩ := onward
      exact step first shallow ⟨rfl, rfl⟩

/-- A walk that is deep enough is a part of the loop. -/
theorem loop_of_walk {depth : Nat}
    (run : Runs (walk cwd cancellable depth next.ancestors found next.directory).attempt t r)
    (shallow : r ≠ .error .tooDeep) (onward : Onward cwd cancellable stack r t' r') :
    Loop cwd cancellable (next :: stack) found (t ++ t') r' := by
  induction depth generalizing next found stack t r t' r' with
  | zero =>
    obtain ⟨-, rfl⟩ := Program.runs_attempt_throw.1 run
    exact absurd rfl shallow
  | succ depth ih =>
    rw [walk_succ] at run
    rcases Program.runs_attempt_bind.1 run with ⟨t₁, t₂, ⟨inner, found₁⟩, rfl, visiting, walking⟩ |
      ⟨fault, rfl, visiting⟩
    · rw [List.append_assoc]
      exact .turn visiting (loop_of_foldlM ih walking shallow onward)
    · obtain ⟨rfl, rfl⟩ := onward
      rw [List.append_nil]
      exact .stopped visiting

end Discovery

/-! ### The turns of the loop -/

namespace Terrain

variable {g : Terrain} {cancellable : Bool}

/-- The number of places that a walk can still come to beneath a pending directory. -/
def rank (g : Terrain) (next : Pending) : Nat :=
  (g.places.filter (· ∉ next.ancestors)).length

/-- One turn of the loop: from a stack with a directory on top to the stack after its visit.  The
state after the turn comes first. -/
inductive Turn (g : Terrain) (cancellable : Bool) :
    List Pending × Discovered → List Pending × Discovered → Prop where
  | turn {next : Pending} {inner stack : List Pending} {found found' : Discovered} {t : Trace}
      (there : g.isDirectory next.directory = true) (shows : g.Shows t)
      (run : Runs (Discovery.visit g.cwd cancellable found next).attempt t (.ok (inner, found'))) :
      Turn g cancellable (inner ++ stack, found') (next :: stack, found)

/-- A directory that is entered takes one of the places that are left. -/
theorem rank_lt {next : Pending} (there : g.isDirectory next.directory = true)
    (apart : g.realPath next.directory ∉ next.ancestors) (path : String) :
    g.rank ⟨path, g.realPath next.directory :: next.ancestors⟩ < g.rank next := by
  have fewer : g.places.filter (· ∉ g.realPath next.directory :: next.ancestors) =
      (g.places.filter (· ∉ next.ancestors)).filter (· ≠ g.realPath next.directory) := by
    rw [List.filter_filter]
    refine List.filter_congr ?_
    intro place _
    simp [not_or]
  have taken : g.realPath next.directory ∈ g.places.filter (· ∉ next.ancestors) :=
    List.mem_filter.2 ⟨g.realPath_mem there, decide_eq_true apart⟩
  unfold rank
  rw [fewer]
  refine List.length_filter_lt_length_iff_exists.2 ⟨_, taken, ?_⟩
  simp

/-- All that a visit pushes has a smaller rank than what it was taken for. -/
theorem Visited.rank_lt {found : Discovered} {next : Pending}
    {visited : List Pending × Discovered} (outcome : g.Visited found next visited)
    (there : g.isDirectory next.directory = true) :
    ∀ inner ∈ visited.1, g.rank inner < g.rank next := by
  cases outcome with
  | passed => exact nofun
  | entered _ apart _ _ inside =>
    rintro ⟨path, ancestors⟩ mem
    obtain ⟨-, rfl⟩ := (inside path ancestors).1 mem
    exact Terrain.rank_lt there apart path

/-- A turn replaces one rank on the stack by smaller ones. -/
theorem Turn.isDershowitzMannaLT {s s' : List Pending × Discovered}
    (turn : g.Turn cancellable s' s) :
    Multiset.IsDershowitzMannaLT (s'.1.map g.rank : Multiset Nat) (s.1.map g.rank) := by
  cases turn with
  | @turn next inner stack found found' t there shows run =>
    have smaller := ((ensures_visit there).of_ok run shows).rank_lt there
    refine ⟨(stack.map g.rank : Multiset Nat), (inner.map g.rank : Multiset Nat), {g.rank next},
      Multiset.singleton_ne_zero _, ?_, ?_, ?_⟩
    · rw [List.map_append, ← Multiset.coe_add, add_comm]
    · rw [List.map_cons, ← Multiset.cons_coe, ← Multiset.singleton_add, add_comm]
    · intro rank mem
      obtain ⟨pending, on, rfl⟩ := List.mem_map.1 (Multiset.mem_coe.1 mem)
      exact ⟨g.rank next, Multiset.mem_singleton_self _, smaller pending on⟩

/-- There is no endless sequence of turns, from whatever stack and memory. -/
theorem wellFounded_turn (g : Terrain) (cancellable : Bool) : WellFounded (g.Turn cancellable) := by
  refine Subrelation.wf Turn.isDershowitzMannaLT (InvImage.wf
    (fun s : List Pending × Discovered => (s.1.map g.rank : Multiset Nat))
    Multiset.wellFounded_isDershowitzMannaLT)

/-- Discovery ends, however links lead around.  The walk of a directory is the loop over its stack,
the loop has no endless sequence of turns, and discovery from any roots has a result unless it is
cancelled. -/
theorem discover_ends (g : Terrain) (cancellable : Bool) :
    WellFounded (g.Turn cancellable) ∧
    (∀ depth start found t r, g.places.length < depth → g.isDirectory start = true →
      Runs (Discovery.walk g.cwd cancellable depth [] found start).attempt t r → g.Shows t →
      Discovery.Loop g.cwd cancellable [⟨start, []⟩] found t r) ∧
    ∀ roots t r, Runs (Discovery.discover g.cwd cancellable roots).attempt t r → g.Shows t →
      (∃ found, r = .ok found) ∨ r = .error .scanCancelled ∧ ⟨.isCancelled, true⟩ ∈ t := by
  refine ⟨wellFounded_turn g cancellable, ?loop, ?result⟩
  case loop =>
    intro depth start found t r deep there run shows
    have walks : g.Ensures (Discovery.walk g.cwd cancellable depth [] found start) _ :=
      ensures_walk route_nil rfl there deep (midway_start found)
    have shallow : r ≠ .error .tooDeep := by
      rcases walks t r run shows with ⟨found', rfl, -⟩ | ⟨rfl, -⟩
      · simp
      · decide
    have whole : Discovery.Loop g.cwd cancellable [⟨start, []⟩] found (t ++ []) r := by
      refine Discovery.loop_of_walk run shallow ?_
      cases r with
      | ok found' => exact .done found'
      | error fault => exact ⟨rfl, rfl⟩
    rwa [List.append_nil] at whole
  case result =>
    intro roots t r run shows
    refine (ensures_discover roots t r run shows).imp_left ?_
    rintro ⟨found, rfl, -⟩
    exact ⟨found, rfl⟩

/-- A directory with a file in it and a link to itself. -/
def hall : Terrain where
  cwd := "/"
  isDirectory path := (Path.components path.toList).all (· = ['l'])
  realPath _ := "/"
  children path := .ok ([['l'], ['x', '.', 'p', 'y']].map fun name =>
    Path.join (Path.normalize "/" path) (String.ofList name))
  resolve path := if Path.baseName path = "x.py" then some (.forPath "/" path) else none
  places := ["/"]
  realPath_mem _ := List.mem_singleton_self _
  isSystem_of_children _ failed := by cases failed
  parent_of_mem listing mem := by
    obtain rfl := Except.ok.inj listing
    obtain ⟨name, one, rfl⟩ := List.mem_map.1 mem
    have component : Path.IsComponent name := by
      rcases List.mem_cons.1 one with rfl | one
      · decide
      · rw [List.mem_singleton.1 one]
        decide
    exact ⟨Path.normalize_join _ _ _ component, Path.directory_join _ _ component⟩
  eq_of_resolve resolved := by
    split at resolved
    · exact (Option.some.inj resolved).symm
    · cases resolved

/-- The path that goes through the link so many times. -/
def hallway (n : Nat) : String := String.ofList (Path.render 1 (List.replicate n ['l']))

/-- The names on it are names. -/
theorem isComponent_hallway (n : Nat) : ∀ p ∈ List.replicate n ['l'], Path.IsComponent p := by
  intro p mem
  rw [List.eq_of_mem_replicate mem]
  decide

/-- The link leads on for ever and the paths are all different, and discovery ends. -/
theorem ends_in_hall :
    (∀ n, hall.isDirectory (hallway n) = true ∧ hall.Lists (hallway n) (hallway (n + 1))) ∧
    Function.Injective hallway ∧
    ∃ found, hall.discovered [.path "/", .path "/l/l"] = .ok found := by
  refine ⟨?_, ?_, ?_⟩
  · intro n
    have names := isComponent_hallway n
    refine ⟨?_, _, rfl, List.mem_cons.2 (Or.inl ?_)⟩
    · have pieces : Path.components (hallway n).toList = List.replicate n ['l'] := by
        unfold hallway
        rw [String.toList_ofList, Path.components_render names]
      change (Path.components (hallway n).toList).all (· = ['l']) = true
      rw [pieces]
      simp
    · have normal : Path.normalize "/" (hallway n) = hallway n :=
        Path.normalize_render "/" (Or.inl rfl) names
      rw [normal]
      unfold hallway Path.join
      dsimp only
      rw [String.toList_ofList, String.toList_ofList,
        Path.joinChars_render (Or.inl rfl) names (by decide), List.replicate_succ']
  · intro n m same
    have chars := congrArg String.toList same
    unfold hallway at chars
    rw [String.toList_ofList, String.toList_ofList] at chars
    have pieces := Path.render_injective (isComponent_hallway n) (isComponent_hallway m) chars
    simpa using congrArg List.length pieces
  · obtain ⟨t, run, shows, passes⟩ := hall.exists_runs_discovered [.path "/", .path "/l/l"]
    refine ((discover_ends hall true).2.2 _ t _ run shows).resolve_right ?_
    rintro ⟨-, token⟩
    exact passes token

end Terrain

end LiveCheck
