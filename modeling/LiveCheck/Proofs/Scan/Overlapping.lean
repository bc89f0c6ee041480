import Mathlib.Logic.Relation
import LiveCheck.Proofs.Scan.Roots
import LiveCheck.Proofs.Scratch

/-!
# Scans that overlap

Any number of scans, and of sets of snapshots that somebody uses himself, are at work on one disk.
Each of them makes one request after the other, in any order between them; each request is answered
as `Served` says, so a name that was removed may be given to another copy; and meanwhile the others
may do what they like as long as they leave the scratch directory alone.

In every state that is reached this way the copies in hand are private: `Sound` says so, together
with the fact that what a worker has left to do completes what he has done to a run of his program.
Because all runs are careful, the next request of every worker is careful too, and `Private.step`
applies.
-/

namespace LiveCheck

open Program (Exchange Runs Tends)

/-! ### What is at work -/

namespace Snapshot

/-- A use of a set of snapshots. -/
inductive Use where
  | make (cancellable : Bool) (handles : List Handle)
  | clean

/-- The program of somebody who adds snapshots to a set and cleans the set up as often as he likes,
and goes on whatever happens. -/
def useSet (scratch : Option String) (files : List Snapshot) : List Use → Program Unit
  | [] => pure ()
  | .make cancellable handles :: rest => do
    let (made, _) ← makeAll scratch cancellable handles
    useSet scratch (files ++ made) rest
  | .clean :: rest => do
    let (left, _) ← clean files
    useSet scratch left rest

/-- A set touches only the copies of its snapshots, also when it is cleaned up repeatedly. -/
theorem tends_useSet (scratch : Option String) (files : List Snapshot) (uses : List Use) :
    Tends (copyPaths files) (useSet scratch files uses) fun _ => [] := by
  induction uses generalizing files with
  | nil => exact Program.tends_pure List.nil_subperm
  | cons use rest ih =>
    cases use with
    | make cancellable handles =>
      unfold useSet
      refine (((tends_makeAll scratch cancellable handles).frame (copyPaths files)).lose
        fun x => ?_).bind fun x => ih (files ++ x.1)
      rw [copyPaths_append]
      exact List.perm_append_comm.subperm
    | clean =>
      unfold useSet
      exact (tends_clean files).bind fun x => ih x.1

end Snapshot

/-- What a worker does: a scan, or the uses of a set of snapshots that is empty at first. -/
inductive Job where
  | call (scan : Scan)
  | set (scratch : Option String) (uses : List Snapshot.Use)

namespace Job

/-- The program of a job. -/
def program : Job → Program Unit
  | call scan => do
    let _ ← scan.run
    pure ()
  | set scratch uses => Snapshot.useSet scratch [] uses

/-- A job begins with nothing in hand and touches only what it has made. -/
theorem tends_program (job : Job) : Tends [] job.program fun _ => [] := by
  cases job with
  | call scan =>
    exact (Scan.tends_run scan).bind fun _ => Program.tends_pure (List.Subperm.refl _)
  | set scratch uses => exact Snapshot.tends_useSet scratch [] uses

end Job

/-! ### Steps -/

/-- Workers on one disk: what each of them has asked and been answered, what he has left to do, and
who made which file. -/
structure System (ι : Type) where
  world : Workspace
  past : ι → Trace
  rest : ι → Program Unit
  makers : Place → Option ι

namespace System

variable {ι : Type}

/-- In the beginning nobody has done anything. -/
def start (jobs : ι → Job) (w : Workspace) : System ι where
  world := w
  past := fun _ => []
  rest := fun i => (jobs i).program
  makers := fun _ => none

variable [DecidableEq ι] {scratch : String → Prop} {jobs : ι → Job} {s s' : System ι}

/-- The system after an answer to a worker. -/
def after (s : System ι) (i : ι) (e : Exchange) (w : Workspace) (rest : Program Unit) :
    System ι where
  world := w
  past := Function.update s.past i (s.past i ++ [e])
  rest := Function.update s.rest i rest
  makers := e.makersAfter i s.world w s.makers

/-- A worker makes the request that is next and is answered. -/
inductive Acts (scratch : String → Prop) (i : ι) : Exchange → System ι → System ι → Prop where
  | intro {s : System ι} {r : Request} {next : r.Reply → Program Unit} {reply : r.Reply}
      {w : Workspace} (asks : s.rest i = .ask r next)
      (served : Served scratch (Spares scratch) s.world ⟨r, reply⟩ w) :
      Acts scratch i ⟨r, reply⟩ s (s.after i ⟨r, reply⟩ w (next reply))

/-- Some worker is answered, or somebody else does something. -/
inductive Step (scratch : String → Prop) : System ι → System ι → Prop where
  | acts {s s' : System ι} {i : ι} {e : Exchange} (acts : Acts scratch i e s s') :
      Step scratch s s'
  | others {s : System ι} {w : Workspace} (spares : Spares scratch s.world w) :
      Step scratch s { s with world := w }

/-- The states that come after some steps, in any order. -/
def Reachable (scratch : String → Prop) (jobs : ι → Job) (w : Workspace) (s : System ι) : Prop :=
  Relation.ReflTransGen (Step scratch) (start jobs w) s

/-! ### What every state has -/

/-- The copies in hand are private, and what a worker has left to do completes what he has done to
a run of his program. -/
structure Sound (scratch : String → Prop) (jobs : ι → Job) (s : System ι) : Prop where
  follows : ∀ i t a, Runs (s.rest i) t a → Runs (jobs i).program (s.past i ++ t) a
  hands : Private scratch s.world s.makers s.past

omit [DecidableEq ι] in
/-- However a worker goes on, all that he does is careful. -/
theorem Sound.careful_append (h : Sound scratch jobs s) {i : ι} {t : Trace} {a : Unit}
    (run : Runs (s.rest i) t a) : Trace.Careful [] (s.past i ++ t) :=
  ((jobs i).tends_program _ _ (h.follows i t a run) [] [] (List.Subperm.refl _)).1

/-- What a worker asks next touches only what he has in hand. -/
theorem Sound.careful (h : Sound scratch jobs s) {i : ι} {e : Exchange}
    (acts : Acts scratch i e s s') : ∀ q ∈ e.touched?, q ∈ Trace.heldFrom [] (s.past i) := by
  cases acts with
  | @intro _ _ next reply _ asks served =>
    -- Some run goes on from here.
    have on := Runs.ask reply (Program.runs_answered Request.nothing (next reply))
    obtain ⟨-, now, -⟩ := Trace.careful_append.1 (h.careful_append (asks ▸ on))
    exact now

/-- One step. -/
theorem Sound.step (h : Sound scratch jobs s) (step : Step scratch s s') :
    Sound scratch jobs s' := by
  cases step with
  | others spares => exact ⟨h.follows, h.hands.spared spares⟩
  | @acts _ i _ acts =>
    have careful := h.careful acts
    cases acts with
    | @intro _ r next reply w asks served =>
      refine ⟨fun j t a run => ?_, h.hands.step served careful⟩
      by_cases same : j = i
      · subst same
        change Runs (Function.update s.rest j (next reply) j) t a at run
        change Runs _ (Function.update s.past j (s.past j ++ [⟨r, reply⟩]) j ++ t) a
        rw [Function.update_self] at run ⊢
        rw [List.append_assoc]
        exact h.follows j _ _ (asks ▸ Runs.ask reply run)
      · change Runs (Function.update s.rest i (next reply) j) t a at run
        change Runs _ (Function.update s.past i (s.past i ++ [⟨r, reply⟩]) j ++ t) a
        rw [Function.update_of_ne same] at run ⊢
        exact h.follows j t a run

/-- All steps. -/
theorem Reachable.sound {w : Workspace} (reached : Reachable scratch jobs w s) :
    Sound scratch jobs s := by
  induction reached with
  | refl => exact ⟨fun _ _ _ run => run, private_nil⟩
  | tail _ step ih => exact ih.step step

/-- The encodings that are known stay the same. -/
theorem Reachable.codecs_eq {w : Workspace} (reached : Reachable scratch jobs w s) :
    s.world.documents.codecs = w.documents.codecs := by
  induction reached with
  | refl => rfl
  | tail _ step ih =>
    refine Eq.trans ?_ ih
    cases step with
    | others spares => exact spares.codecs
    | acts acts =>
      cases acts with
      | intro asks served => exact served.codecs_eq

/-- The copies of workers who overlap are private.  Whatever a worker has created and not yet tried
to remove he has in hand, with the text that he wrote to it last; what he has in hand stands where
its path leads, is a file that he made, and holds that text; and a request that writes or removes a
copy, be it the first or a repeated one, changes nothing but a file that the worker himself made. -/
theorem copies_private {w : Workspace} (reached : Reachable scratch jobs w s) :
    (∀ i a b stem extension directory path,
      s.past i = a ++ ⟨.createTemporary stem extension directory, .ok path⟩ :: b →
      (∀ e ∈ b, e.request ≠ .remove path) → ∃ copy, (path, copy) ∈ Trace.holdings (s.past i)) ∧
    (∀ i a b path text encoding,
      s.past i = a ++ ⟨.writeTemporary path text encoding, .ok ()⟩ :: b →
      (∀ e ∈ b, e.touched? ≠ some path) →
      (path, .written text encoding) ∈ Trace.holdings (s.past i)) ∧
    (∀ i, ∀ x ∈ Trace.holdings (s.past i), ∃ place,
      Stands scratch s.world s.makers i x place) ∧
    ∀ i e s', Acts scratch i e s s' → e.touched? ≠ none →
      ∀ place, s'.world.disk.entry? place ≠ s.world.disk.entry? place →
        s.makers place = some i := by
  have sound := reached.sound
  refine ⟨?created, ?written, sound.hands.stands, ?touched⟩
  case created =>
    intro i a b stem extension directory path done kept
    refine Trace.exists_holding ?_
    rw [done]
    exact Trace.mem_heldFrom_of_created kept
  case written =>
    intro i a b path text encoding done untouched
    have careful := sound.careful_append (Program.runs_answered Request.nothing (s.rest i))
    rw [done, List.append_assoc] at careful
    obtain ⟨-, now, -⟩ := Trace.careful_append.1 careful
    rw [done]
    exact Trace.mem_holdings_of_written (now path rfl) untouched
  case touched =>
    intro i e s' acts touches place changed
    have careful := sound.careful acts
    cases acts with
    | intro asks served => exact sound.hands.made_of_changed served careful touches changed

/-! ### A name that is used twice -/

/-- A worker is answered from the disk, if he asks anything. -/
def answer (s : System ι) (i : ι) : System ι :=
  match s.rest i with
  | .done _ => s
  | .ask r next =>
    let (reply, w) := s.world.reply Request.nothing r
    s.after i ⟨r, reply⟩ w (next reply)

/-- Names for copies are given from the first one again. -/
def reuse (s : System ι) : System ι := { s with world := { s.world with nextTemporary := 0 } }

/-- Workers take turns; between them, names may be given again. -/
def play (s : System ι) (turns : List (Option ι)) : System ι :=
  turns.foldl (fun s turn => turn.elim s.reuse s.answer) s

/-- Whatever turns are taken, the state is reachable. -/
theorem reachable_play (jobs : ι → Job) (w : Workspace) (turns : List (Option ι)) :
    Reachable (fun _ => True) jobs w (play (start jobs w) turns) := by
  suffices ∀ s, Reachable (fun _ => True) jobs w s → Reachable (fun _ => True) jobs w (s.play turns)
    from this _ .refl
  induction turns with
  | nil => exact fun _ reached => reached
  | cons turn rest ih =>
    intro s reached
    refine ih _ ?_
    cases turn with
    | none => exact reached.tail (.others ⟨rfl, rfl, fun _ _ _ _ leads file => ⟨leads, file⟩⟩)
    | some i =>
      change Reachable _ jobs w (s.answer i)
      unfold answer
      split
      · exact reached
      · next r next asks =>
        exact reached.tail (.acts (.intro asks (s.world.served_reply Request.nothing r).spares))

/-- Two sets with a snapshot of the same edited file; one of them is cleaned up, used once more and
cleaned up again. -/
def twoSets : Bool → Job
  | false => .set none
    [.make false [{ path := "/p/b.py" }], .clean, .make false [{ path := "/p/b.py" }], .clean]
  | true => .set none [.make false [{ path := "/p/b.py" }]]

/-- One set is made and cleaned up; the other one is made, and its copy gets the name that is free
again; then the first one is used again and cleaned up a second time. -/
def twoTurns : List (Option Bool) :=
  List.replicate 8 (some false) ++ none :: List.replicate 7 (some true) ++
    List.replicate 8 (some false)

/-- The second cleanup removes the second copy of its set, and the copy of the other set, which has
the name of the first one, stays. -/
theorem name_used_twice :
    ∃ s, Reachable (fun _ => True) twoSets (Scan.twoBefore false) s ∧
      (∃ e ∈ s.past false, e.request = .remove "/tmp/b_00000000.py") ∧
      (∃ e ∈ s.past false, e.request = .remove "/tmp/b_00000001.py") ∧
      ∃ place, s.world.Leads "/tmp/b_00000000.py" place ∧ s.makers place = some true ∧
        s.world.disk.entry? place = some (.file [0x79, 0x0a, 0x7a]) := by
  have reached := reachable_play twoSets (Scan.twoBefore false) twoTurns
  have removals : (∃ e ∈ ((start twoSets (Scan.twoBefore false)).play twoTurns).past false,
        e.request = .remove "/tmp/b_00000000.py") ∧
      ∃ e ∈ ((start twoSets (Scan.twoBefore false)).play twoTurns).past false,
        e.request = .remove "/tmp/b_00000001.py" := by
    decide +kernel
  have held : ("/tmp/b_00000000.py", Copy.written "y\nz" "utf-8") ∈
      Trace.holdings (((start twoSets (Scan.twoBefore false)).play twoTurns).past true) := by
    decide +kernel
  generalize (start twoSets (Scan.twoBefore false)).play twoTurns = s at reached removals held
  obtain ⟨-, -, stands, -⟩ := copies_private reached
  obtain ⟨place, -, leads, made, bytes, file, fits⟩ := stands true _ held
  have encoded : ((Encoding.Codecs.builtin.find "utf-8").bind fun codec =>
      codec.encode "y\nz".toList) = .ok [0x79, 0x0a, 0x7a] := by
    rfl
  rw [reached.codecs_eq] at fits
  obtain rfl : [0x79, 0x0a, 0x7a] = bytes := Except.ok.inj (encoded.symm.trans fits)
  exact ⟨s, reached, removals.1, removals.2, place, leads, made, file⟩

end System

end LiveCheck
