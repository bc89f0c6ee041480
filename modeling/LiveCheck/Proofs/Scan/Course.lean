import LiveCheck.Proofs.Requests

/-!
# The course of a scan

A scan goes through its stages one after the other and may end early at every one of them.  This
file says once and for all how it can go: `runs_perform` lists the ways up to the report,
`runs_obtain` adds the removal of the copies and the outcome, `runs_announce` the telling, and
`runs_run` puts a call together.  What is proved about scans is read off these lists; nothing else
opens the definition of a scan.
-/

namespace LiveCheck

open Program

/-- What is asked to copy the list of listeners, which holds these. -/
def Trace.registering (ls : List Listener) : Trace :=
  [⟨.lockListeners, ()⟩, ⟨.listeners, ls⟩, ⟨.unlockListeners, ()⟩]

/-- The list of listeners is copied under its lock. -/
theorem Scan.runs_registered {t : Trace} {ls : List Listener} :
    Runs registered t ls ↔ t = Trace.registering ls := by
  constructor
  · intro run
    obtain ⟨_, t₁, rfl, copying⟩ := runs_request_bind.1 run
    obtain ⟨_, t₂, rfl, unlocking⟩ := runs_request_bind.1 copying
    obtain ⟨_, t₃, rfl, last⟩ := runs_request_bind.1 unlocking
    obtain ⟨rfl, rfl⟩ := runs_pure.1 last
    rfl
  · rintro rfl
    refine runs_request_bind.2 ⟨(), _, rfl, runs_request_bind.2 ⟨ls, _, rfl, ?_⟩⟩
    exact runs_request_bind.2 ⟨(), _, rfl, runs_pure.2 ⟨rfl, rfl⟩⟩

/-- What the fault of a copy that could not be created becomes. -/
def Snapshot.uncreated (h : Handle) (fault : Fault) : Fault :=
  if fault.isSystem then
    validationFailure h ("Cannot create snapshot for " ++ h.path ++ ": " ++ fault.message)
      (some fault)
  else fault

/-- An empty copy is created by one request for a file with the name and the extension of the file
that is copied, and its answer decides. -/
theorem Snapshot.runs_createCopy {scratch : Option String} {h : Handle} {t : Trace}
    {r : Except Fault String} (run : Runs (createCopy scratch h).attempt t r) :
    ∃ reply, t = [⟨.createTemporary ((Path.splitExtension h.name).1 ++ "_")
        (Path.splitExtension h.name).2 scratch, reply⟩] ∧
      (∀ path, r = .ok path ↔ reply = .ok path) ∧
      ∀ fault, reply = .error fault → r = .error (uncreated h fault) := by
  unfold createCopy at run
  generalize Path.splitExtension h.name = parts at run ⊢
  obtain ⟨stem, extension⟩ := parts
  obtain ⟨_, t₂, reply, rfl, create, rest⟩ := runs_attempt_ofTotal_bind.1 run
  cases runs_request.1 create
  match reply with
  | .ok path =>
    obtain ⟨rfl, rfl⟩ := runs_attempt_pure.1 rest
    exact ⟨_, rfl, fun _ => Iff.rfl, nofun⟩
  | .error fault =>
    dsimp only at rest
    unfold uncreated
    split at rest
    · next system =>
      obtain ⟨rfl, rfl⟩ := runs_attempt_throw.1 rest
      refine ⟨_, rfl, by simp, ?_⟩
      rintro _ ⟨⟩
      rw [if_pos system]
    · next other =>
      obtain ⟨rfl, rfl⟩ := runs_attempt_throw.1 rest
      refine ⟨_, rfl, by simp, ?_⟩
      rintro _ ⟨⟩
      rw [if_neg other]

/-- The snapshots of files are made one by one: that of the first file cannot be made and that is
all, or it is made and then those of the others. -/
theorem Snapshot.runs_makeEach {scratch : Option String} {cancellable : Bool}
    {unsaved : Table String Handle} {h : Handle} {rest : List Handle} {t : Trace}
    {made : List Snapshot} {r : Except Fault Unit}
    (run : Runs (makeEach scratch cancellable unsaved (h :: rest)) t (made, r)) :
    (∃ fault, made = [] ∧ r = .error fault ∧
      Runs (make scratch cancellable unsaved h).attempt t (.error fault)) ∨
    ∃ s others unsaved' t₁ t₂, made = s :: others ∧ t = t₁ ++ t₂ ∧
      Runs (make scratch cancellable unsaved h).attempt t₁ (.ok (s, unsaved')) ∧
      Runs (makeEach scratch cancellable unsaved' rest) t₂ (others, r) := by
  unfold makeEach at run
  obtain ⟨t₁, t₂, first, rfl, make, making⟩ := runs_bind.1 run
  rcases first with fault | ⟨s, unsaved'⟩
  · obtain ⟨rfl, same⟩ := runs_pure.1 making
    cases same
    rw [List.append_nil]
    exact .inl ⟨fault, rfl, rfl, make⟩
  · obtain ⟨t₃, t₄, ⟨others, ending⟩, rfl, makeRest, last⟩ := runs_bind.1 making
    obtain ⟨rfl, same⟩ := runs_pure.1 last
    cases same
    rw [List.append_nil]
    exact .inr ⟨s, others, unsaved', t₁, t₃, rfl, rfl, make, makeRest⟩

/-- The snapshots of files are made under the lock: it is not to be had and that is all, or they
are made one by one and then the lock is left. -/
theorem Snapshot.runs_makeAll {scratch : Option String} {cancellable : Bool}
    {handles : List Handle} {t : Trace} {made : List Snapshot} {r : Except Fault Unit}
    (run : Runs (makeAll scratch cancellable handles) t (made, r)) :
    (∃ fault, made = [] ∧ r = .error fault ∧ t = [⟨.lock, .error fault⟩]) ∨
    ∃ t₁ ending unlocked, t = ⟨.lock, .ok ()⟩ :: (t₁ ++ [⟨.unlock, unlocked⟩]) ∧
      r = unlockedWith ending unlocked ∧
      Runs (makeEach scratch cancellable [] handles) t₁ (made, ending) := by
  unfold makeAll at run
  obtain ⟨locked, t₁, rfl, making⟩ := runs_request_bind.1 run
  match locked with
  | .error fault =>
    obtain ⟨rfl, same⟩ := runs_pure.1 making
    cases same
    exact .inl ⟨fault, rfl, rfl, rfl⟩
  | .ok () =>
    obtain ⟨t₂, t₃, ⟨made', ending⟩, rfl, each, unlocking⟩ := runs_bind.1 making
    obtain ⟨unlocked, t₄, rfl, last⟩ := runs_request_bind.1 unlocking
    obtain ⟨rfl, same⟩ := runs_pure.1 last
    cases same
    exact .inr ⟨t₂, ending, unlocked, rfl, rfl, each⟩

namespace Scan

/-- The ways of a scan up to its report: it does not find its files, or there are none, or they
cannot all be made ready, or the tool is run over them.  The trace, the snapshots that were made
on the way, and the end. -/
inductive Performed (scan : Scan) (id : String) :
    Trace → List Snapshot → Except Fault Report → Prop where
  | unstarted {t : Trace} {fault : Fault} (start : Runs scan.start.attempt t (.error fault)) :
      Performed scan id t [] (.error fault)
  | nothing {t : Trace} (start : Runs scan.start.attempt t (.ok [])) :
      Performed scan id t [] (.ok (.empty id))
  | unprepared {t₁ t₂ : Trace} {h : Handle} {rest : List Handle} {made : List Snapshot}
      {fault : Fault} (start : Runs scan.start.attempt t₁ (.ok (h :: rest)))
      (make : Runs (Snapshot.makeAll scan.settings.scratchDir true (h :: rest)) t₂
        (made, .error fault)) :
      Performed scan id (t₁ ++ ⟨.enter .snapshotting, ()⟩ :: t₂) made (.error fault)
  | prepared {t₁ t₂ t₃ : Trace} {h : Handle} {rest : List Handle} {made : List Snapshot}
      {r : Except Fault Report} (start : Runs scan.start.attempt t₁ (.ok (h :: rest)))
      (make : Runs (Snapshot.makeAll scan.settings.scratchDir true (h :: rest)) t₂
        (made, .ok ()))
      (check : Runs (scan.check id made).attempt t₃ r) :
      Performed scan id (t₁ ++ ⟨.enter .snapshotting, ()⟩ :: (t₂ ++ t₃)) made r

/-- A scan goes one of these ways up to its report. -/
theorem runs_perform {scan : Scan} {id : String} {t : Trace} {made : List Snapshot}
    {r : Except Fault Report} (run : Runs (scan.perform id) t (made, r)) :
    Performed scan id t made r := by
  unfold perform at run
  obtain ⟨t₁, t₂, found, rfl, start, rest⟩ := runs_bind.1 run
  match found with
  | .error fault =>
    obtain ⟨rfl, h⟩ := runs_pure.1 rest
    cases h
    rw [List.append_nil]
    exact Performed.unstarted start
  | .ok [] =>
    obtain ⟨rfl, h⟩ := runs_pure.1 rest
    cases h
    rw [List.append_nil]
    exact Performed.nothing start
  | .ok (h :: files) =>
    obtain ⟨_, t₃, rfl, making⟩ := runs_request_bind.1 rest
    obtain ⟨t₄, t₅, ⟨made', ending⟩, rfl, make, checking⟩ := runs_bind.1 making
    match ending with
    | .error fault =>
      obtain ⟨rfl, h⟩ := runs_pure.1 checking
      cases h
      rw [List.append_nil]
      exact Performed.unprepared start make
    | .ok () =>
      obtain ⟨t₆, t₇, r', rfl, check, last⟩ := runs_bind.1 checking
      obtain ⟨rfl, h⟩ := runs_pure.1 last
      cases h
      rw [List.append_nil]
      exact Performed.prepared start make check

/-- The outcome of a scan is what its report is judged to be once the copies are removed. -/
theorem runs_obtain {scan : Scan} {id : String} {t : Trace} {r : Except Fault Outcome} :
    Runs (scan.obtain id).attempt t r ↔
      ∃ t₁ t₂ made ended removed, t = t₁ ++ t₂ ∧ Runs (scan.perform id) t₁ (made, ended) ∧
        Runs (Snapshot.deleteAll made).attempt t₂ removed ∧
        r = judge id (unlockedWith ended removed) := by
  unfold obtain
  rw [runs_attempt_ofProgram, runs_bind]
  constructor
  · rintro ⟨t₁, t₂, ⟨made, ended⟩, rfl, perform, rest⟩
    obtain ⟨t₃, t₄, removed, rfl, delete, last⟩ := runs_bind.1 rest
    refine ⟨t₁, t₃, made, ended, removed, ?_, perform, delete, ?_⟩ <;>
      cases removed <;> obtain ⟨rfl, rfl⟩ := runs_pure.1 last <;> simp [unlockedWith]
  · rintro ⟨t₁, t₂, made, ended, removed, rfl, perform, delete, rfl⟩
    refine ⟨t₁, t₂, (made, ended), rfl, perform, runs_bind.2 ⟨t₂, [], removed, by simp, delete, ?_⟩⟩
    cases removed <;> exact runs_pure.2 ⟨rfl, rfl⟩

/-- A fault that takes the place of the outcome is one that leaves the scan. -/
theorem leaves_of_judge {id : String} {r : Except Fault Report} {fault : Fault}
    (h : judge id r = .error fault) : fault.leaves = true := by
  unfold judge at h
  split at h
  · cases h
  · cases h
  · split at h
    · next leaves =>
      cases h
      exact leaves
    · split at h <;> cases h

/-- A success is the end of the scan that it reports. -/
theorem eq_ok_of_judge {id : String} {r : Except Fault Report} {report : Report}
    (h : judge id r = .ok (.success report)) : r = .ok report := by
  unfold judge at h
  split at h
  · cases h
    rfl
  · cases h
  · split at h
    · cases h
    · split at h <;> cases h

/-- A call of a scan takes a name, obtains an outcome, tells it and is idle again; a fault that
leaves the scan takes the place of the outcome and of its telling. -/
theorem runs_run {scan : Scan} {t : Trace} {r : Except Fault Report}
    (run : Runs scan.run t r) :
    ∃ id t₁, (∃ fault, Runs (scan.obtain id).attempt t₁ (.error fault) ∧ r = .error fault ∧
        t = ⟨.freshId, id⟩ :: (t₁ ++ [⟨.enter .idle, ()⟩])) ∨
      ∃ outcome t₂ told, Runs (scan.obtain id).attempt t₁ (.ok outcome) ∧
        Runs (announce outcome).attempt t₂ told ∧ r = told.map (fun _ => outcome.report) ∧
        t = ⟨.freshId, id⟩ :: (t₁ ++ ⟨.conclude outcome, ()⟩ :: (t₂ ++ [⟨.enter .idle, ()⟩])) := by
  unfold Scan.run at run
  obtain ⟨id, rest, rfl, obtaining⟩ := runs_request_bind.1 run
  obtain ⟨t₁, t₂, ended, rfl, obtained, ending⟩ := runs_bind.1 obtaining
  refine ⟨id, t₁, ?_⟩
  match ended with
  | .error fault =>
    obtain ⟨_, t₃, rfl, leave⟩ := runs_request_bind.1 ending
    obtain ⟨rfl, rfl⟩ := runs_pure.1 leave
    exact Or.inl ⟨fault, obtained, rfl, rfl⟩
  | .ok outcome =>
    obtain ⟨_, t₃, rfl, telling⟩ := runs_request_bind.1 ending
    obtain ⟨t₄, t₅, told, rfl, announced, leaving⟩ := runs_bind.1 telling
    obtain ⟨_, t₆, rfl, leave⟩ := runs_request_bind.1 leaving
    obtain ⟨rfl, rfl⟩ := runs_pure.1 leave
    exact Or.inr ⟨outcome, t₄, told, obtained, announced, rfl, rfl⟩

end Scan

end LiveCheck
