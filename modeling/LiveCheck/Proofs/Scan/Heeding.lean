import LiveCheck.Proofs.Scan.Cancellation

/-!
# Cancelled scans that fail

A cancelled scan is to be an empty success and never a failure.  The scan learns that it is
cancelled when it asks for its token, or by the fault of somebody whom it asks, and then it gives up
whatever it is at.  `Heeds` says so of a part of a scan: the part ends cancelled if it was told of
it, and only then.  It is proved for every part up to the lines of the tool, each from its own parts
in turn.

So the promise holds for a scan that is told.  It is broken in two ways.  A fault that comes after
the token trips, but before the scan asks for it again, is a failure like any other; and when a scan
that was told gives the lock of the documents back, a fault of the lock takes the place of the
cancellation.  `failed_unless_told` says that there is no third way.
-/

namespace LiveCheck

open Program (Exchange Runs)

/-- Is a scan cancelled by the fault? -/
def Fault.isCancellation : Fault → Bool
  | cancelled _ => true
  | _ => false

/-- A cancellation does not leave a scan. -/
theorem Fault.isCancellation_of_leaves {fault : Fault} (leaves : fault.leaves = true) :
    fault.isCancellation = false := by
  cases fault with
  | cancelled => cases leaves
  | failure | failureFrom | raised => rfl

namespace Program

variable {α β : Type}

/-- Was something given up because the scan is cancelled? -/
def stopped : Except Fault α → Bool
  | .ok _ => false
  | .error fault => fault.isCancellation

/-- Is the scan told that it is cancelled, by its token or by the fault of whom it asks?  Listeners
are not asked but told, and their faults are no answers. -/
def Exchange.tells : Exchange → Bool
  | ⟨.isCancelled, stop⟩ => stop
  | ⟨.children _, reply⟩ => stopped reply
  | ⟨.isDirectory _, reply⟩ => stopped reply
  | ⟨.resolve _, reply⟩ => stopped reply
  | ⟨.realPath _, reply⟩ => stopped reply
  | ⟨.currentText _, reply⟩ => stopped reply
  | ⟨.diskText _, reply⟩ => stopped reply
  | ⟨.encoding _, reply⟩ => stopped reply
  | ⟨.lock, reply⟩ => stopped reply
  | ⟨.unlock, reply⟩ => stopped reply
  | ⟨.pick _, reply⟩ => stopped reply
  | ⟨.createTemporary _ _ _, reply⟩ => stopped reply
  | ⟨.writeTemporary _ _ _, reply⟩ => stopped reply
  | ⟨.remove _, reply⟩ => stopped reply
  | ⟨.invoke _ _, reply⟩ => stopped reply
  | ⟨.start _ _, reply⟩ => stopped reply
  | _ => false

/-- Is the lock of the documents not given back, after a fault that is no cancellation? -/
def Exchange.losesLock : Exchange → Bool
  | ⟨.unlock, .error fault⟩ => !fault.isCancellation
  | _ => false

end Program

namespace Trace

open Program

variable {t t' : Trace} {e : Exchange}

/-- The scan is told that it is cancelled. -/
def Told (t : Trace) : Prop := ∃ e ∈ t, e.tells = true

/-- At some point the lock of the documents is not given back. -/
def LosesLock (t : Trace) : Prop := ∃ e ∈ t, e.losesLock = true

/-- Nothing is told where nothing is asked. -/
@[simp] theorem not_told_nil : ¬ Told [] := by simp [Told]

/-- A cancellation is told by the first request or later. -/
@[simp] theorem told_cons : Told (e :: t) ↔ e.tells = true ∨ Told t := by
  simp [Told]

/-- A cancellation is told in one of two parts. -/
@[simp] theorem told_append : Told (t ++ t') ↔ Told t ∨ Told t' := by
  simp [Told, or_and_right, exists_or]

/-- No lock is lost where nothing is asked. -/
@[simp] theorem not_losesLock_nil : ¬ LosesLock [] := by simp [LosesLock]

/-- A lock is lost by the first request or later. -/
@[simp] theorem losesLock_cons : LosesLock (e :: t) ↔ e.losesLock = true ∨ LosesLock t := by
  simp [LosesLock]

/-- A lock is lost in one of two parts. -/
@[simp] theorem losesLock_append : LosesLock (t ++ t') ↔ LosesLock t ∨ LosesLock t' := by
  simp [LosesLock, or_and_right, exists_or]

/-- Those who follow a scan do not cancel it. -/
theorem About.not_told {cs : List Concern} (h : About cs t)
    (hc : ∀ c ∈ cs, c ∈ [.registry, .listener, .user, .log, .phase, .call]) : ¬ Told t := by
  rintro ⟨⟨r, reply⟩, he, tells⟩
  have about := hc _ (h _ he)
  cases r <;> simp [Request.concern] at about <;> cases tells

/-- No lock is lost where none is asked for. -/
theorem About.not_losesLock {cs : List Concern} (h : About cs t) (hc : Concern.lock ∉ cs) :
    ¬ LosesLock t := by
  rintro ⟨⟨r, reply⟩, he, loses⟩
  have about : r.concern ∈ cs := h _ he
  cases r with
  | unlock => exact hc about
  | _ => cases loses

end Trace

open Trace

namespace Program

variable {α β : Type}

/-- A program heeds its cancellation: it ends cancelled if it was told of it, and only then. -/
def Heeds (p : Program (Except Fault α)) : Prop :=
  ∀ t r, Runs p t r → (Told t ↔ stopped r = true)

/-! ### Programs that heed their cancellation -/

/-- A result without requests. -/
theorem heeds_pure {r : Except Fault α} (unstopped : stopped r = false) :
    Heeds (pure r : Program (Except Fault α)) := by
  intro t r' run
  obtain ⟨rfl, rfl⟩ := runs_pure.1 run
  simp [unstopped]

/-- A single request whose fault is the end. -/
theorem heeds_request {r : Request} {ending : r.Reply → Except Fault α}
    (tells : ∀ reply, Exchange.tells ⟨r, reply⟩ = stopped (ending reply)) :
    Heeds (ask r fun reply => done (ending reply)) := by
  intro t r' run
  obtain ⟨reply, rest, rfl, last⟩ := runs_ask.1 run
  obtain ⟨rfl, rfl⟩ := runs_done.1 last
  simp [tells]

/-- A program that is told nothing and does not end cancelled. -/
theorem heeds_of_silent {p : Program (Except Fault α)}
    (silent : ∀ t r, Runs p t r → ¬ Told t ∧ stopped r = false) : Heeds p := by
  intro t r run
  obtain ⟨untold, unstopped⟩ := silent t r run
  simp [untold, unstopped]

/-- A program goes on with the end of another one, and hands a cancellation on. -/
theorem Heeds.bind {p : Program (Except Fault α)} {f : Except Fault α → Program (Except Fault β)}
    (hp : Heeds p) (goes_on : ∀ r, stopped r = false → Heeds (f r))
    (hands_on : ∀ message, f (.error (.cancelled message)) =
      pure (.error (.cancelled message))) : Heeds (p >>= f) := by
  intro t r run
  obtain ⟨t₁, t₂, r₁, rfl, first, rest⟩ := runs_bind.1 run
  have told := hp t₁ r₁ first
  rw [told_append, told]
  match r₁ with
  | .error (.cancelled message) =>
    rw [hands_on] at rest
    obtain ⟨rfl, rfl⟩ := runs_pure.1 rest
    simp [stopped, Fault.isCancellation]
  | .error (.failure _ _) | .error (.failureFrom _ _ _) | .error (.raised _ _ _) | .ok _ =>
    have last := goes_on _ rfl t₂ r rest
    simpa [stopped, Fault.isCancellation] using last

/-- A sequence of actions. -/
theorem Heeds.attempt_bind {a : Action α} {f : α → Action β} (ha : Heeds a.attempt)
    (hf : ∀ x, Heeds (f x).attempt) : Heeds (a >>= f).attempt := by
  rw [Program.attempt_bind]
  refine ha.bind (fun r unstopped => ?_) fun _ => rfl
  cases r with
  | ok x => exact hf x
  | error fault => exact heeds_pure unstopped

/-- An action whose faults are handled, except cancellations. -/
theorem Heeds.attempt_tryCatch {a : Action α} {handle : Fault → Action α} (ha : Heeds a.attempt)
    (handles : ∀ fault, fault.isCancellation = false → Heeds (handle fault).attempt)
    (hands_on : ∀ message, handle (.cancelled message) = throw (.cancelled message)) :
    Heeds (tryCatch a handle).attempt := by
  rw [Program.attempt_tryCatch]
  refine ha.bind (fun r unstopped => ?_) fun message => congrArg Action.attempt (hands_on message)
  cases r with
  | ok x => exact heeds_pure rfl
  | error fault => exact handles fault unstopped

/-- An action that looks at the end of a program, and hands a cancellation on. -/
theorem Heeds.attempt_match {p : Program (Except Fault α)} {f : Except Fault α → Action β}
    (hp : Heeds p) (goes_on : ∀ r, stopped r = false → Heeds (f r).attempt)
    (hands_on : ∀ message, f (.error (.cancelled message)) = throw (.cancelled message)) :
    Heeds (Action.ofTotal p >>= f).attempt := by
  intro t r run
  obtain ⟨t₁, t₂, r₁, rfl, first, rest⟩ := runs_attempt_ofTotal_bind.1 run
  have whole : Heeds (p >>= fun r => (f r).attempt) :=
    hp.bind goes_on fun message => congrArg Action.attempt (hands_on message)
  exact whole _ _ (runs_bind.2 ⟨t₁, t₂, r₁, rfl, first, rest⟩)

/-- An action that is told nothing by a program without faults. -/
theorem heeds_silent_bind {p : Program α} {f : α → Action β}
    (silent : ∀ t a, Runs p t a → ¬ Told t) (hf : ∀ a, Heeds (f a).attempt) :
    Heeds (Action.ofTotal p >>= f).attempt := by
  intro t r run
  obtain ⟨t₁, t₂, a, rfl, first, rest⟩ := runs_attempt_ofTotal_bind.1 run
  rw [told_append, or_iff_right (silent t₁ a first)]
  exact hf a t₂ r rest

/-- An action that has a result. -/
theorem heeds_attempt_pure (a : α) : Heeds (pure a : Action α).attempt := heeds_pure rfl

/-- An action that fails without being cancelled. -/
theorem heeds_attempt_throw {fault : Fault} (h : fault.isCancellation = false) :
    Heeds (throw fault : Action α).attempt := heeds_pure h

/-- Steps that are done one after the other, each on the result of the one before. -/
theorem heeds_attempt_foldlM {f : β → α → Action β} (hf : ∀ b a, Heeds (f b a).attempt)
    (as : List α) (b : β) : Heeds (as.foldlM f b : Action β).attempt := by
  induction as generalizing b with
  | nil => exact heeds_attempt_pure b
  | cons a as ih => exact (hf b a).attempt_bind ih

/-- A request by which nothing is told. -/
theorem untold_request {r : Request} (silent : ∀ reply, Exchange.tells ⟨r, reply⟩ = false)
    (t : Trace) (reply : r.Reply) (run : Runs (request r) t reply) : ¬ Told t := by
  rw [runs_request.1 run]
  simp [silent]

/-- A line of the log. -/
theorem logLine_untold (level : LogLevel) (source : LogSource) (text : String) :
    ∀ t a, Runs (logLine level source text) t a → ¬ Told t :=
  untold_request (r := .log _) fun _ => rfl

end Program

open Program

/-- A check for cancellation. -/
theorem checkCancelled_heeds (cancellable : Bool) : Heeds (checkCancelled cancellable).attempt := by
  unfold checkCancelled
  cases cancellable with
  | false => exact heeds_attempt_pure ()
  | true =>
    intro t r run
    obtain ⟨_, t₂, stop, rfl, token, rest⟩ := runs_attempt_ofTotal_bind.1 run
    cases runs_request.1 token
    cases stop <;> obtain ⟨rfl, rfl⟩ := runs_done.1 rest <;>
      simp [Exchange.tells, stopped, Fault.isCancellation, Fault.scanCancelled]

/-! ### Discovery -/

namespace Discovery

/-- To look at the children of a directory. -/
theorem look_heeds (children inner : List String) (found : Discovered) :
    Heeds (look inner found children).attempt := by
  induction children generalizing inner found with
  | nil => exact heeds_attempt_pure _
  | cons child rest ih =>
    unfold look
    refine Heeds.attempt_bind (heeds_request fun _ => rfl) fun isDirectory => ?_
    cases isDirectory with
    | true => exact ih _ _
    | false => exact Heeds.attempt_bind (heeds_request fun _ => rfl) fun resolved => ih _ _

/-- A walk. -/
theorem walk_heeds (cwd : String) (cancellable : Bool) (depth : Nat) (ancestors : List String)
    (found : Discovered) (directory : String) :
    Heeds (walk cwd cancellable depth ancestors found directory).attempt := by
  induction depth generalizing ancestors found directory with
  | zero => exact heeds_attempt_throw rfl
  | succ depth ih =>
    unfold walk
    refine (checkCancelled_heeds _).attempt_bind fun _ => ?_
    refine Heeds.attempt_bind (heeds_request fun _ => rfl) fun real => ?_
    split
    · exact heeds_attempt_pure _
    · refine Heeds.attempt_match (heeds_request fun _ => rfl) (fun r unstopped => ?_) fun _ => rfl
      cases r with
      | error fault =>
        dsimp only
        split
        · exact heeds_attempt_pure _
        · exact heeds_attempt_throw unstopped
      | ok children =>
        refine (look_heeds _ _ _).attempt_bind fun looked => ?_
        exact heeds_attempt_foldlM (fun found directory => ih _ found directory) looked.1 looked.2

/-- To walk one root. -/
theorem walkRoot_heeds (cwd : String) (cancellable : Bool) (depth : Nat) (found : Discovered)
    (root : Root) : Heeds (walkRoot cwd cancellable depth found root).attempt := by
  unfold walkRoot
  refine (checkCancelled_heeds _).attempt_bind fun _ => ?_
  refine Heeds.attempt_bind (heeds_request fun _ => rfl) fun
    | true => walk_heeds _ _ _ _ _ _
    | false => ?_
  exact Heeds.attempt_bind (heeds_request fun _ => rfl) fun _ => heeds_attempt_pure _

/-- To find the files under roots. -/
theorem flatten_heeds (cwd : String) (cancellable : Bool) (roots : List Root) :
    Heeds (flatten cwd cancellable roots).attempt := by
  unfold flatten discover
  refine Heeds.attempt_bind ?_ fun _ => heeds_attempt_pure _
  refine heeds_silent_bind (untold_request (r := .directoryBound) fun _ => rfl) fun depth => ?_
  exact heeds_attempt_foldlM (fun found root => walkRoot_heeds _ _ _ found root) roots _

end Discovery

/-! ### Snapshots -/

namespace Snapshot

/-- To read the texts of a file. -/
theorem readTexts_heeds (h : Handle) : Heeds (readTexts h).attempt := by
  unfold readTexts
  refine Heeds.attempt_tryCatch ?_ (fun fault unstopped => ?_) fun _ => rfl
  · refine Heeds.attempt_bind (heeds_request fun _ => rfl) fun current => ?_
    exact Heeds.attempt_bind (heeds_request fun _ => rfl) fun onDisk => heeds_attempt_pure _
  · split
    · exact heeds_attempt_throw rfl
    · exact heeds_attempt_throw unstopped

/-- To remove a copy. -/
theorem delete_heeds (s : Snapshot) : Heeds s.delete.attempt := by
  unfold delete
  split
  · refine Heeds.attempt_match (heeds_request fun _ => rfl) (fun r unstopped => ?_) fun _ => rfl
    cases r with
    | ok u => exact heeds_attempt_pure ()
    | error fault =>
      dsimp only
      split
      · exact heeds_attempt_pure ()
      · split
        · exact heeds_silent_bind (logLine_untold _ _ _) fun _ => heeds_attempt_pure ()
        · exact heeds_attempt_throw unstopped
  · exact heeds_attempt_pure ()

/-- To write a copy. -/
theorem writeCopy_heeds (scratch : Option String) (h : Handle) (text : String) :
    Heeds (writeCopy scratch h text).attempt := by
  unfold writeCopy
  refine Heeds.attempt_bind ?_ fun path => Heeds.attempt_bind ?_ fun _ => heeds_attempt_pure _
  · unfold createCopy
    obtain ⟨stem, extension⟩ := Path.splitExtension h.name
    refine Heeds.attempt_match (heeds_request fun _ => rfl) (fun r unstopped => ?_) fun _ => rfl
    cases r with
    | ok path => exact heeds_attempt_pure path
    | error fault =>
      dsimp only
      split
      · exact heeds_attempt_throw rfl
      · exact heeds_attempt_throw unstopped
  · refine Heeds.attempt_tryCatch ?_ (fun fault unstopped => ?_) fun _ => rfl
    · refine Heeds.attempt_bind (heeds_request fun _ => rfl) fun encoding => ?_
      exact heeds_request fun _ => rfl
    · split
      · exact (delete_heeds _).attempt_bind fun _ => heeds_attempt_throw rfl
      · exact heeds_attempt_throw unstopped

/-- To make the snapshot of a file. -/
theorem make_heeds (scratch : Option String) (cancellable : Bool) (unsaved : Table String Handle)
    (h : Handle) : Heeds (make scratch cancellable unsaved h).attempt := by
  unfold make
  refine (checkCancelled_heeds _).attempt_bind fun _ => ?_
  refine (readTexts_heeds _).attempt_bind fun (current, onDisk) => ?_
  refine Heeds.attempt_bind (heeds_pure ?_) fun unsaved => ?_
  · unfold claim claimPath
    repeat' split
    all_goals rfl
  · refine Heeds.attempt_bind ?_ fun _ => heeds_attempt_pure _
    unfold place
    split
    · exact heeds_attempt_pure _
    · exact writeCopy_heeds _ _ _

/-- To make the snapshots of files one by one. -/
theorem makeEach_heeds {scratch : Option String} {cancellable : Bool}
    {unsaved : Table String Handle} {handles : List Handle} {t : Trace} {made : List Snapshot}
    {ending : Except Fault Unit}
    (run : Runs (makeEach scratch cancellable unsaved handles) t (made, ending)) :
    Told t ↔ stopped ending = true := by
  induction handles generalizing unsaved t made ending with
  | nil =>
    obtain ⟨rfl, h⟩ := runs_pure.1 run
    cases h
    simp [stopped]
  | cons h rest ih =>
    unfold makeEach at run
    obtain ⟨t₁, t₂, first, rfl, one, others⟩ := runs_bind.1 run
    have told := make_heeds _ _ _ _ _ _ one
    rw [told_append, told]
    cases first with
    | error fault =>
      obtain ⟨rfl, h⟩ := runs_pure.1 others
      cases h
      simp [stopped]
    | ok _ =>
      obtain ⟨t₃, t₄, ⟨made', ending'⟩, rfl, more, last⟩ := runs_bind.1 others
      obtain ⟨rfl, h⟩ := runs_pure.1 last
      cases h
      simpa [stopped] using ih more

/-- To make a set of snapshots.  If the lock of the documents is lost, its fault is the end. -/
theorem makeAll_heeds {scratch : Option String} {cancellable : Bool} {handles : List Handle}
    {t : Trace} {made : List Snapshot} {ending : Except Fault Unit}
    (run : Runs (makeAll scratch cancellable handles) t (made, ending)) :
    (Told t ∧ ¬ LosesLock t ↔ stopped ending = true) ∧
      (ending = .ok () → ¬ Told t ∧ ¬ LosesLock t) := by
  unfold makeAll at run
  obtain ⟨_, t₁, locked, rfl, lock, rest⟩ := runs_bind.1 run
  cases runs_request.1 lock
  cases locked with
  | error fault =>
    obtain ⟨rfl, h⟩ := runs_pure.1 rest
    cases h
    simp [Exchange.losesLock, Exchange.tells]
  | ok _ =>
    obtain ⟨t₂, t₃, ⟨made', ended⟩, rfl, make, unlocking⟩ := runs_bind.1 rest
    obtain ⟨_, t₄, unlocked, rfl, unlock, last⟩ := runs_bind.1 unlocking
    cases runs_request.1 unlock
    obtain ⟨rfl, h⟩ := runs_pure.1 last
    cases h
    have told := makeEach_heeds make
    have kept := (make.about (makeEach_asks _ _ _ _)).not_losesLock (by decide)
    cases unlocked with
    | ok _ =>
      refine ⟨?_, fun made => ?_⟩
      · simp [Exchange.losesLock, Exchange.tells, kept, told, stopped, unlockedWith]
      · cases (eq_ok_of_unlockedWith made).1
        simp [Exchange.losesLock, Exchange.tells, kept, told, stopped]
    | error fault =>
      refine ⟨?_, fun made => ?_⟩
      · simp +contextual [Exchange.losesLock, Exchange.tells, kept, stopped, unlockedWith]
      · cases made

/-- To remove a copy tells nothing unless the removal is cancelled. -/
theorem delete_untold {s : Snapshot} {t : Trace} {r : Except Fault Unit}
    (run : Runs s.delete.attempt t r)
    (removals : ∀ path message, ⟨.remove path, .error (.cancelled message)⟩ ∉ t) : ¬ Told t := by
  unfold delete at run
  split at run
  · obtain ⟨_, t₁, reply, rfl, remove, rest⟩ := runs_attempt_ofTotal_bind.1 run
    cases runs_request.1 remove
    have first : stopped reply = false := by
      match reply with
      | .ok () | .error (.failure _ _) | .error (.failureFrom _ _ _) | .error (.raised _ _ _) => rfl
      | .error (.cancelled message) => exact absurd (by simp) (removals s.path message)
    have untold : ¬ Told t₁ := by
      match reply with
      | .ok () =>
        obtain ⟨rfl, -⟩ := runs_attempt_pure.1 rest
        exact not_told_nil
      | .error fault =>
        dsimp only at rest
        split at rest
        · obtain ⟨rfl, -⟩ := runs_attempt_pure.1 rest
          exact not_told_nil
        · split at rest
          · obtain ⟨_, -, log⟩ := runs_attempt_ofTotal.1 rest
            exact logLine_untold _ _ _ _ _ log
          · obtain ⟨rfl, -⟩ := runs_attempt_throw.1 rest
            exact not_told_nil
    simpa [Exchange.tells, first] using untold
  · obtain ⟨rfl, -⟩ := runs_attempt_pure.1 run
    exact not_told_nil

/-- Only a fault that leaves the scan comes out of the removal of the copies of a set. -/
theorem leaves_of_deleteAll {made : List Snapshot} {t : Trace} {fault : Fault}
    (run : Runs (deleteAll made).attempt t (.error fault)) : fault.leaves = true := by
  induction made generalizing t with
  | nil => cases (runs_attempt_pure.1 run).2
  | cons s rest ih =>
    unfold deleteAll at run
    obtain ⟨t₁, t₂, removed, rfl, -, others⟩ := runs_attempt_ofTotal_bind.1 run
    cases removed with
    | ok _ => exact ih others
    | error fault' =>
      dsimp only at others
      split at others
      · next fatal =>
        obtain ⟨_, _, _, rfl, thrown, -⟩ | ⟨_, same, thrown⟩ := runs_attempt_bind.1 others
        · cases (runs_attempt_throw.1 thrown).2
        · cases same
          cases (runs_attempt_throw.1 thrown).2
          simp [Fault.leaves, fatal]
      · obtain ⟨_, _, _, rfl, -, last⟩ := runs_attempt_ofTotal_bind.1 others
        exact ih last

/-- To remove the copies of a set tells nothing unless a removal is cancelled. -/
theorem deleteAll_untold {made : List Snapshot} {t : Trace} {r : Except Fault Unit}
    (run : Runs (deleteAll made).attempt t r)
    (removals : ∀ path message, ⟨.remove path, .error (.cancelled message)⟩ ∉ t) : ¬ Told t := by
  induction made generalizing t with
  | nil =>
    obtain ⟨rfl, rfl⟩ := runs_attempt_pure.1 run
    exact not_told_nil
  | cons s rest ih =>
    unfold deleteAll at run
    obtain ⟨t₁, t₂, removed, rfl, one, others⟩ := runs_attempt_ofTotal_bind.1 run
    have untold := delete_untold one fun path message mem =>
      removals path message (List.mem_append_left _ mem)
    have further {t : Trace} (part : t <:+ t₁ ++ t₂) (run : Runs (deleteAll rest).attempt t r) :=
      ih run fun path message mem => removals path message (part.subset mem)
    cases removed with
    | ok _ => simpa [untold] using further (List.suffix_append _ _) others
    | error fault =>
      dsimp only at others
      split at others
      · rcases runs_attempt_bind.1 others with ⟨t₃, t₄, _, rfl, thrown, -⟩ | ⟨_, rfl, thrown⟩
        · cases (runs_attempt_throw.1 thrown).2
        · obtain ⟨rfl, -⟩ := runs_attempt_throw.1 thrown
          simp [untold]
      · obtain ⟨t₃, t₄, _, rfl, log, last⟩ := runs_attempt_ofTotal_bind.1 others
        have silent := logLine_untold _ _ _ _ _ log
        simpa [untold, silent] using further ⟨t₁ ++ t₃, by simp⟩ last

end Snapshot

/-! ### The tool -/

namespace Tool

/-- To put the command together. -/
theorem command_heeds (settings : Settings) (root : String) (paths : List String) :
    Heeds (command settings root paths).attempt := by
  have cut (line : String) : Heeds (words line).attempt := by
    refine heeds_pure ?_
    cases Text.shellWords line <;> rfl
  have first (paths : List String) {t : Trace} {found : Option String}
      (run : Runs (firstFile paths) t found) : ¬ Told t := by
    induction paths generalizing t with
    | nil =>
      obtain ⟨rfl, -⟩ := runs_pure.1 run
      exact not_told_nil
    | cons path rest ih =>
      unfold firstFile at run
      obtain ⟨isFile, t₁, rfl, further⟩ := runs_request_bind.1 run
      cases isFile with
      | true =>
        obtain ⟨rfl, -⟩ := runs_pure.1 further
        simp [Exchange.tells]
      | false => simpa [Exchange.tells] using ih further
  have config {t : Trace} {found : Option String}
      (run : Runs (locateConfig root settings.configFile) t found) : ¬ Told t := by
    unfold locateConfig at run
    split at run
    · exact first _ run
    · exact first _ run
    · obtain ⟨isFile, t₁, rfl, further⟩ := runs_request_bind.1 run
      split at further
      · obtain ⟨rfl, -⟩ := runs_pure.1 further
        simp [Exchange.tells]
      · obtain ⟨t₂, t₃, _, rfl, log, last⟩ := runs_bind.1 further
        obtain ⟨rfl, -⟩ := runs_pure.1 last
        simpa [Exchange.tells] using logLine_untold _ _ _ _ _ log
  unfold command
  refine (cut _).attempt_bind fun start => ?_
  refine heeds_silent_bind (fun t found => config) fun found => ?_
  dsimp only
  split
  · exact Heeds.attempt_bind (heeds_attempt_pure _) fun _ => heeds_attempt_pure _
  · exact (cut _).attempt_bind fun _ => heeds_attempt_pure _

/-- To wait for the process. -/
theorem await_heeds (cancellable : Bool) (waits : Nat) :
    Heeds (await cancellable waits).attempt := by
  have kill {t : Trace} {r : Except Fault Completion} (run : Runs killCancelled.attempt t r) :
      stopped r = true := by
    unfold killCancelled at run
    obtain ⟨_, t₁, stuck, -, -, rest⟩ := runs_attempt_ofTotal_bind.1 run
    cases stuck with
    | none =>
      obtain ⟨-, rfl⟩ := runs_attempt_throw.1 rest
      rfl
    | some number =>
      obtain ⟨_, t₂, _, -, -, last⟩ := runs_attempt_ofTotal_bind.1 rest
      obtain ⟨-, rfl⟩ := runs_attempt_throw.1 last
      rfl
  have guarded {next : Action Completion} (hn : Heeds next.attempt) :
      Heeds (unlessCancelled cancellable next).attempt := by
    unfold unlessCancelled
    cases cancellable with
    | false => exact hn
    | true =>
      intro t r run
      obtain ⟨_, t₁, stop, rfl, token, rest⟩ := runs_attempt_ofTotal_bind.1 run
      cases runs_request.1 token
      cases stop with
      | true => simp [Exchange.tells, kill rest]
      | false => simpa [Exchange.tells] using hn _ _ rest
  induction waits with
  | zero =>
    refine guarded (heeds_of_silent fun t r run => ?_)
    obtain ⟨completion, rfl, collect⟩ := runs_attempt_ofTotal.1 run
    exact ⟨untold_request (r := .collect) (fun _ => rfl) _ _ collect, rfl⟩
  | succ waits ih =>
    exact guarded (heeds_silent_bind (untold_request (r := .wait) fun _ => rfl) fun _ => ih)

/-- To run the tool. -/
theorem run_heeds (settings : Settings) (root : String) (paths : List String)
    (cancellable : Bool) : Heeds (run settings root paths cancellable).attempt := by
  unfold run
  refine (command_heeds _ _ _).attempt_bind fun words => ?_
  refine (checkCancelled_heeds _).attempt_bind fun _ => ?_
  refine Heeds.attempt_match (heeds_request fun _ => rfl) (fun r unstopped => ?_) fun _ => rfl
  cases r with
  | error fault =>
    dsimp only
    split
    · exact heeds_attempt_throw rfl
    · exact heeds_attempt_throw unstopped
  | ok waits =>
    refine (await_heeds _ _).attempt_bind fun completion => heeds_pure ?_
    unfold result
    split <;> rfl

end Tool

/-! ### The stages of a scan -/

namespace Scan

variable {scan : Scan} {id : String} {made : List Snapshot} {t : Trace}

/-- To find the files and to tell the listeners. -/
theorem start_heeds (scan : Scan) : Heeds scan.start.attempt := by
  have find : Heeds scan.resolveFiles.attempt := by
    unfold resolveFiles
    refine Heeds.attempt_bind ?_ fun handles => ?_
    · unfold candidates
      split
      · exact heeds_attempt_pure _
      · exact Discovery.flatten_heeds _ _ _
    · unfold pick
      split
      · exact heeds_attempt_pure _
      · exact heeds_request fun _ => rfl
  have tell (files : List Handle) (ls : List Listener) : Heeds (tellStart files ls).attempt := by
    refine heeds_of_silent fun t r run =>
      ⟨(run.about (tellStart_asks _ _)).not_told (by simp), ?_⟩
    obtain ⟨told, -, -, ⟨rfl, -⟩ | ⟨fault, rfl, leaves⟩⟩ := runs_tellStart run
    · rfl
    · exact Fault.isCancellation_of_leaves leaves
  unfold start
  refine heeds_silent_bind (untold_request (r := .enter _) fun _ => rfl) fun _ => ?_
  refine (checkCancelled_heeds _).attempt_bind fun _ => find.attempt_bind fun files => ?_
  refine heeds_silent_bind (fun _ _ run => (run.about registered_asks).not_told (by simp))
    fun ls => ?_
  exact (tell files ls).attempt_bind fun _ => heeds_attempt_pure _

/-- To get the printed lines. -/
theorem print_heeds (scan : Scan) (paths : List String) : Heeds (scan.print paths).attempt := by
  unfold print
  refine heeds_silent_bind (untold_request (r := .enter _) fun _ => rfl) fun _ => ?_
  refine (checkCancelled_heeds _).attempt_bind fun _ => ?_
  unfold invoke
  split
  · exact Tool.run_heeds _ _ _ _
  · exact heeds_request fun _ => rfl

/-- A check of snapshots that is stopped before its lines are attributed. -/
theorem check_heeds {r : Except Fault Report} (run : Runs (scan.check id made).attempt t r)
    (stops : StopsAt .parsing t) : Told t ∧ ¬ LosesLock t ↔ stopped r = true := by
  unfold check at run
  rcases runs_attempt_bind.1 run with ⟨t₁, t₂, lines, rfl, print, report⟩ | ⟨fault, rfl, print⟩
  · obtain ⟨rfl, rfl⟩ := runs_stopped report (stops.mono (List.suffix_append _ _).isInfix)
    have kept := (print.about (print_asks _ _)).not_losesLock (by decide)
    simp [kept, Exchange.losesLock, Exchange.tells, stopped, Fault.isCancellation,
      Fault.scanCancelled]
  · rw [and_iff_left ((print.about (print_asks _ _)).not_losesLock (by decide))]
    exact print_heeds _ _ _ _ print

/-- The stages of a scan that is stopped before its lines are attributed.  They end cancelled just
when the scan is told of it and keeps the lock of the documents, and with a report only where
nothing is to be scanned. -/
theorem perform_heeds {r : Except Fault Report} (run : Runs (scan.perform id) t (made, r))
    (stops : StopsAt .parsing t) :
    (Told t ∧ ¬ LosesLock t ↔ stopped r = true) ∧
      ∀ report, r = .ok report → .snapshotting ∉ phases t ∧ report = .empty id := by
  have kept {t : Trace} {r : Except Fault (List Handle)} (start : Runs scan.start.attempt t r) :
      ¬ LosesLock t := (start.about (start_asks _)).not_losesLock (by decide)
  cases runs_perform run with
  | unstarted start =>
    refine ⟨?_, nofun⟩
    rw [and_iff_left (kept start)]
    exact start_heeds _ _ _ start
  | nothing start =>
    refine ⟨?_, ?_⟩
    · rw [and_iff_left (kept start)]
      exact start_heeds _ _ _ start
    · rintro report h
      cases h
      obtain ⟨opening, seen, -⟩ := sights_start start
      refine ⟨?_, rfl⟩
      unfold phases
      rw [seen]
      cases opening <;> simp [Sight.phase?, Opening.sights]
  | unprepared start make =>
    have untold := mt (start_heeds _ _ _ start).1 Bool.false_ne_true
    refine ⟨?_, nofun⟩
    have ending := (Snapshot.makeAll_heeds make).1
    simpa [kept start, untold, Exchange.losesLock, Exchange.tells, stopped] using ending
  | prepared start make check =>
    have untold := mt (start_heeds _ _ _ start).1 Bool.false_ne_true
    obtain ⟨untold', kept'⟩ := (Snapshot.makeAll_heeds make).2 rfl
    have last : StopsAt .parsing _ := stops.mono ⟨_ ++ _ :: _, [], by simp; rfl⟩
    have ending := check_heeds check last
    refine ⟨?_, fun report is => ?_⟩
    · simpa [kept start, kept', untold, untold', Exchange.losesLock, Exchange.tells] using ending
    · obtain ⟨fault, h⟩ := check_without_report check last
      rw [is] at h
      cases h

/-- A fault that leaves a scan takes the place of the outcome. -/
theorem judge_of_leaves {fault : Fault} (leaves : fault.leaves = true) :
    judge id (.error fault) = .error fault := by
  cases fault with
  | cancelled | failure | failureFrom => cases leaves
  | raised => exact if_pos leaves

/-- The outcome that a scan is judged to have is that of a cancelled scan, or of a success, if the
scan ended so. -/
theorem judge_eq_ok {r : Except Fault Report} {outcome : Outcome}
    (h : judge id r = .ok outcome) :
    ((∃ id', outcome = .cancelled id') ↔ stopped r = true) ∧
      ∀ report, outcome = .success report → r = .ok report := by
  refine ⟨?_, fun report is => eq_ok_of_judge (is ▸ h)⟩
  unfold judge at h
  split at h
  · cases h
    simp [stopped]
  · cases h
    simp [stopped, Fault.isCancellation]
  · next fault uncancelled =>
    have other : fault.isCancellation = false := by
      cases fault with
      | cancelled message => exact absurd rfl (uncancelled message)
      | failure | failureFrom | raised => rfl
    repeat' split at h
    all_goals cases h
    all_goals simp [stopped, other]

/-- The outcome of a scan that is stopped before its lines are attributed. -/
theorem obtain_heeds {outcome : Outcome} (run : Runs (scan.obtain id).attempt t (.ok outcome))
    (stops : StopsAt .parsing t)
    (removals : ∀ path message, ⟨.remove path, .error (.cancelled message)⟩ ∉ t) :
    ((∃ id', outcome = .cancelled id') ↔ Told t ∧ ¬ LosesLock t) ∧
      (outcome.isSuccess = true → .snapshotting ∉ phases t ∧ outcome.report = .empty id) := by
  obtain ⟨t₁, t₂, made, ended, removed, rfl, perform, delete, judged⟩ := runs_obtain.1 run
  obtain ⟨ending, reports⟩ := perform_heeds perform (stops.mono (List.prefix_append _ _).isInfix)
  have untold := Snapshot.deleteAll_untold delete fun path message mem =>
    removals path message (List.mem_append_right _ mem)
  have kept := (delete.about (Snapshot.deleteAll_asks _)).not_losesLock (by decide)
  match removed with
  | .error fault =>
    change .ok outcome = judge id (.error fault) at judged
    rw [judge_of_leaves (Snapshot.leaves_of_deleteAll delete)] at judged
    cases judged
  | .ok () =>
    change .ok outcome = judge id ended at judged
    obtain ⟨cancelled, success⟩ := judge_eq_ok judged.symm
    refine ⟨?_, fun succeeds => ?_⟩
    · rw [cancelled, told_append, losesLock_append, or_iff_left untold, or_iff_left kept]
      exact ending.symm
    · cases outcome with
      | success report =>
        obtain ⟨unmade, rfl⟩ := reports report (success report rfl)
        have quiet := (delete.about (Snapshot.deleteAll_asks _)).sights_eq_nil (by simp)
        refine ⟨?_, rfl⟩
        unfold phases at unmade ⊢
        rwa [sights_append, quiet, List.append_nil]
      | cancelled | failed => cases succeeds

/-! ### Calls that are cancelled and fail -/

/-- When a cancelled scan fails.  The run is cut where the token trips, and that is before the scan
goes on to the lines of the tool.  The scan ends cancelled just when it is told of its cancellation
and does not lose the lock of the documents; it is a success only if it finds nothing to scan; and
in every other case it fails.  The user is shown a fault, and listeners hear of one, just when it
fails. -/
theorem failed_unless_told {before after : Trace} {r : Except Fault Report} {outcome : Outcome}
    (run : Runs scan.run (before ++ after) r) (tripped : Tripped after)
    (unentered : .parsing ∉ phases before)
    (concluded : ⟨.conclude outcome, ()⟩ ∈ before ++ after)
    (removals : ∀ path message, ⟨.remove path, .error (.cancelled message)⟩ ∉ before ++ after) :
    ((∃ id, outcome = .cancelled id) ↔ Told (before ++ after) ∧ ¬ LosesLock (before ++ after)) ∧
    (outcome.isSuccess = true →
      .snapshotting ∉ phases (before ++ after) ∧ ∃ id, outcome.report = .empty id) ∧
    (∀ error, .shown error ∈ sights (before ++ after) ↔
      ∃ fault, outcome.error? = some fault ∧ error = some fault) ∧
    ∀ l fault, .ended l (.failed fault) ∈ sights (before ++ after) →
      outcome.error? = some fault := by
  have stops : StopsAt .parsing (before ++ after) :=
    tripped.stopsAt fun checked => unentered checked.mem_phases
  generalize before ++ after = t at *
  obtain ⟨id, t₁, t₂, told, obtained, announced, rfl, rfl⟩ := exists_of_concluded run concluded
  have stops₁ : StopsAt .parsing t₁ := stops.mono (List.infix_append' [_] t₁ _)
  obtain ⟨cancelled, success⟩ := obtain_heeds obtained stops₁ fun path message mem =>
    removals path message (by simp [mem])
  -- Nothing is told and nothing is lost while the outcome is announced.
  have quiet := announced.about (announce_asks outcome)
  have untold : ¬ Told t₂ := quiet.not_told (by simp)
  have kept : ¬ LosesLock t₂ := quiet.not_losesLock (by decide)
  -- What is seen: the stages, then the closing, then that the scan is idle.
  obtain ⟨opening, entered, -, seen₁, -⟩ := sights_obtain obtained
  obtain ⟨hearing, -, seen₂⟩ := runs_announce announced
  refine ⟨?_, fun succeeds => ?_, fun error => ?_, fun l fault => ?_⟩
  · simpa [untold, kept, Exchange.tells, Exchange.losesLock] using cancelled
  · obtain ⟨unmade, empty⟩ := success succeeds
    refine ⟨?_, id, empty⟩
    unfold phases at unmade ⊢
    cases outcome with
    | success report =>
      cases hearing <;> simpa [seen₂, Closing.sights, Hearing.sights, Outcome.error?,
        Outcome.phase, Exchange.sight?, Sight.phase?] using unmade
    | cancelled | failed => cases succeeds
  · cases opening <;> cases hearing <;>
      simp [seen₁, seen₂, Exchange.sight?, Closing.sights, Hearing.sights, Opening.sights, eq_comm]
  · cases opening <;> cases hearing <;> cases outcome <;>
      simp [seen₁, seen₂, Exchange.sight?, Closing.sights, Hearing.sights, Opening.sights,
        Outcome.error?, Outcome.ending]

/-- The runner raises an error, and the scan is cancelled as soon as the runner is called. -/
def raising (cancelled : Bool) (r : Request) : r.Reply × Bool :=
  (match r with
    | .isCancelled => cancelled
    | .invoke _ _ => .error (.raised .other "RuntimeError" "boom")
    | r => r.nothing, cancelled || r.concern = .tool)

/-- What such a scan of one file shows to the user. -/
def shownError : Fault :=
  .failed .general genericMessage (some (.raised .other "RuntimeError" "boom"))

/-- The conclusion of a trace is one of its requests. -/
theorem conclude_mem {t : Trace} {outcome : Outcome}
    (asked : .conclude outcome ∈ t.map Exchange.request) : ⟨.conclude outcome, ()⟩ ∈ t := by
  obtain ⟨⟨request, reply⟩, mem, rfl⟩ := List.mem_map.1 asked
  exact mem

/-- A scan that is cancelled while texts are read is told of it and fails for nobody; one whose
runner raises an error after the scan was cancelled is not told of it, and the user is shown the
error. -/
theorem told_in_time_or_not :
    let early := (record (cancelledAt .text) false (provided [{ path := "/p/a.py" }]).run).1
    let late := (record raising false (provided [{ path := "/p/a.py" }]).run).1
    Told early ∧ (∀ error, .shown error ∉ sights early) ∧
      ¬ (Told late ∧ ¬ LosesLock late) ∧ .shown (some shownError) ∈ sights late := by
  intro early late
  have run (answer : Bool → (r : Request) → r.Reply × Bool) (n : ℕ) :
      let played := record answer false (provided [{ path := "/p/a.py" }]).run
      Runs (provided [{ path := "/p/a.py" }]).run (played.1.take n ++ played.1.drop n)
        played.2.1 := by
    intro played
    rw [List.take_append_drop]
    exact runs_record _ _ _
  have removals {t : Trace} (removed : ∀ e ∈ t, e.failsToRemove = false) (path message : String) :
      ⟨.remove path, .error (.cancelled message)⟩ ∉ t := fun mem => by cases removed _ mem
  have concluded₁ : ⟨.conclude (.cancelled ""), ()⟩ ∈ early.take 12 ++ early.drop 12 :=
    conclude_mem (by decide +kernel)
  have concluded₂ : ⟨.conclude (.failed "" shownError), ()⟩ ∈ late.take 20 ++ late.drop 20 :=
    conclude_mem (by decide +kernel)
  have first := failed_unless_told (run (cancelledAt .text) 12)
    (by unfold Tripped; decide +kernel) (by decide +kernel) concluded₁
    (removals (by decide +kernel))
  have second := failed_unless_told (run raising 20)
    (by unfold Tripped; decide +kernel) (by decide +kernel) concluded₂
    (removals (by decide +kernel))
  rw [List.take_append_drop] at first second
  obtain ⟨cancelled, -, shown, -⟩ := first
  obtain ⟨uncancelled, -, shown', -⟩ := second
  refine ⟨(cancelled.1 ⟨"", rfl⟩).1, fun error mem => ?_, fun told => ?_,
    (shown' _).2 ⟨_, rfl, rfl⟩⟩
  · obtain ⟨fault, h, -⟩ := (shown error).1 mem
    cases h
  · obtain ⟨id, h⟩ := uncancelled.2 told
    cases h

/-- A cancelled scan may fail: an error of the runner that comes after the token tripped is shown to
the user, though nothing ends the program. -/
theorem not_never_failed :
    ¬ ∀ (scan : Scan) (before after : Trace) (report : Report) (outcome : Outcome),
      Runs scan.run (before ++ after) (.ok report) → Tripped after → .parsing ∉ phases before →
      ⟨.conclude outcome, ()⟩ ∈ before ++ after →
        outcome.error? = none ∧ ∀ error, .shown error ∉ sights (before ++ after) := by
  intro all
  let played := record raising false (provided [{ path := "/p/a.py" }]).run
  have run : Runs (provided [{ path := "/p/a.py" }]).run
      (played.1.take 20 ++ played.1.drop 20) (.ok (.empty "")) := by
    have result : played.2.1 = .ok (.empty "") := by decide +kernel
    rw [List.take_append_drop, ← result]
    exact runs_record _ _ _
  have never := all _ _ _ _ (.failed "" shownError) run (by unfold Tripped; decide +kernel)
    (by decide +kernel) (conclude_mem (by decide +kernel))
  cases never.1

end Scan

end LiveCheck
