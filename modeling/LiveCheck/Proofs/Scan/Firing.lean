import LiveCheck.Proofs.Scan.Telling

/-!
# When a scan starts

In a call listeners are told at most once that the scan starts: after its files are resolved, and
never again.  `exists_firing` cuts a call there.  Either the start fails before anybody is asked
for, or there is a moment at which the files are told to those who are registered; everything
before it belongs to the search for files, and nobody is told of a start after it.
-/

namespace LiveCheck

open Program

/-! ### Who is told -/

/-- Those who are told in a trace that a scan starts, each with the files that it gets. -/
def Trace.started (t : Trace) : List (Listener × List Handle) :=
  (Trace.sights t).filterMap fun
    | .started l files => some (l, files)
    | _ => none

/-- No listener changes the list of files that it is told. -/
def Trace.KeepsFiles (t : Trace) : Prop :=
  ∀ l files reply, ⟨.tellStart l files, reply⟩ ∈ t → reply.1 = files

/-- Who is told in two traces one after the other. -/
@[simp] theorem Trace.started_append (t t' : Trace) :
    Trace.started (t ++ t') = Trace.started t ++ Trace.started t' := by
  unfold Trace.started
  rw [Trace.sights_append, List.filterMap_append]

/-- Nobody is told of a start where no listener is asked anything. -/
theorem Trace.About.started_eq_nil {cs : List Concern} {t : Trace} (about : Trace.About cs t)
    (h : Concern.listener ∉ cs) : Trace.started t = [] := by
  refine List.filterMap_eq_nil_iff.2 fun x hx => ?_
  obtain ⟨⟨r, reply⟩, he, seen⟩ := List.mem_filterMap.1 hx
  have other := about.concern_ne h _ he
  cases r with
  | tellStart => exact absurd rfl other
  | _ =>
    cases seen
    try rfl

namespace Scan

/-- Nobody is told in the call that the scan starts: its start fails before listeners are asked
for. -/
def Unfired (scan : Scan) (t : Trace) : Prop :=
  ∃ id t₁ t₂ fault, t = ⟨.freshId, id⟩ :: (t₁ ++ t₂) ∧ Runs scan.start.attempt t₁ (.error fault) ∧
    (∀ e ∈ t₁, e.request ≠ .listeners) ∧ Trace.started t = []

/-- The moment of a call at which listeners are told that the scan starts.  Files were searched for
and resolved, and these are told to the listeners of the registry; later nobody is told of a start
any more. -/
structure Firing (scan : Scan) where
  id : String
  search : Trace
  files : List Handle
  registered : List Listener
  telling : Trace
  ending : Except Fault Unit
  after : Trace
  resolve : Runs scan.resolveFiles.attempt search (.ok files)
  tell : Runs (tellStart files registered).attempt telling ending
  silent : Trace.started after = []

variable {scan : Scan}

/-- The trace of the call. -/
def Firing.trace (f : scan.Firing) : Trace :=
  ⟨.freshId, f.id⟩ ::
    (opened ++ (f.search ++ (Trace.registering f.registered ++ f.telling)) ++ f.after)

/-- The first listener of the registry is told first, of all files. -/
theorem head?_started_tellStart {files : List Handle} {ls : List Listener} {t : Trace}
    {r : Except Fault Unit} (run : Runs (tellStart files ls).attempt t r) :
    (Trace.started t).head? = ls.head?.map fun l => (l, files) := by
  cases ls with
  | nil =>
    obtain ⟨rfl, -⟩ := runs_attempt_pure.1 run
    rfl
  | cons l rest =>
    obtain ⟨_, _, _, rfl, tell, -⟩ := runs_attempt_ofTotal_bind.1 run
    cases runs_request.1 tell
    rfl

/-- All listeners are told of the same files if none of them changes the list. -/
theorem files_of_started_tellStart {files : List Handle} {ls : List Listener} {t : Trace}
    {r : Except Fault Unit} (run : Runs (tellStart files ls).attempt t r) (keeps : t.KeepsFiles) :
    ∀ x ∈ Trace.started t, x.2 = files := by
  induction ls generalizing files t with
  | nil =>
    obtain ⟨rfl, -⟩ := runs_attempt_pure.1 run
    exact fun x hx => absurd hx List.not_mem_nil
  | cons l rest ih =>
    unfold tellStart at run
    obtain ⟨_, t₂, ⟨left, reply⟩, rfl, tell, settling⟩ := runs_attempt_ofTotal_bind.1 run
    cases runs_request.1 tell
    have same : left = files := keeps l files _ List.mem_cons_self
    subst same
    refine List.forall_mem_cons.2 ⟨rfl, ?_⟩
    rcases runs_attempt_bind.1 settling with ⟨t₃, t₄, _, rfl, settled, others⟩ | ⟨_, rfl, failed⟩
    · change ∀ x ∈ Trace.started (t₃ ++ t₄), x.2 = left
      have quiet : Trace.started t₃ = [] := by rw [Trace.started, (runs_settle settled).1]; rfl
      rw [Trace.started_append, quiet]
      exact ih others fun l' files' reply' h =>
        keeps l' files' reply' (List.mem_cons_of_mem _ (List.mem_append_right t₃ h))
    · change ∀ x ∈ Trace.started t₂, x.2 = left
      rw [Trace.started, (runs_settle failed).1]
      exact fun x hx => absurd hx List.not_mem_nil

/-- In a call that gets there, those are told that a scan starts who are told at its firing. -/
theorem Firing.started_trace (f : scan.Firing) :
    Trace.started f.trace = Trace.started f.telling := by
  have searching : Trace.started f.search = [] :=
    (f.resolve.about (resolveFiles_asks scan)).started_eq_nil (by simp)
  have registry : Trace.started (Trace.registering f.registered ++ f.telling) =
      Trace.started f.telling := rfl
  change Trace.started (opened ++ (f.search ++ _) ++ f.after) = _
  rw [Trace.started_append, Trace.started_append, Trace.started_append, searching, registry,
    f.silent]
  exact List.append_nil _

/-- Whoever is told first that the scan starts is told of the files of the firing. -/
theorem Firing.head?_started (f : scan.Firing) :
    (Trace.started f.trace).head? = f.registered.head?.map fun l => (l, f.files) := by
  rw [f.started_trace, head?_started_tellStart f.tell]

/-- Whoever is told that the scan starts is told of the files of the firing, if nobody changes
them. -/
theorem Firing.files_of_started (f : scan.Firing) (keeps : f.trace.KeepsFiles) :
    ∀ x ∈ Trace.started f.trace, x.2 = f.files := by
  have inside : f.telling ⊆ f.trace := fun e he => by simp [trace, he]
  rw [f.started_trace]
  exact files_of_started_tellStart f.tell fun l files reply h => keeps l files reply (inside h)

/-- After its start a scan tells nobody that it starts, up to its report. -/
theorem exists_start_of_performed {id : String} {t : Trace} {made : List Snapshot}
    {r : Except Fault Report} (performed : Performed scan id t made r) :
    ∃ t₁ t₂ found, t = t₁ ++ t₂ ∧ Runs scan.start.attempt t₁ found ∧ Trace.started t₂ = [] := by
  cases performed with
  | unstarted start => exact ⟨t, [], _, (List.append_nil t).symm, start, rfl⟩
  | nothing start => exact ⟨t, [], _, (List.append_nil t).symm, start, rfl⟩
  | @unprepared _ t₂ _ _ _ _ start make =>
    have making : Trace.started t₂ = [] :=
      (make.about (Snapshot.makeAll_asks _ _ _)).started_eq_nil (by simp)
    exact ⟨_, _, _, rfl, start, making⟩
  | @prepared _ t₂ t₃ _ _ _ _ start make check =>
    have making := (make.about (Snapshot.makeAll_asks _ _ _)).started_eq_nil (by simp)
    have checking := (check.about (check_asks _ _ _)).started_eq_nil (by simp)
    refine ⟨_, _, _, rfl, start, ?_⟩
    change Trace.started (t₂ ++ t₃) = []
    rw [Trace.started_append, making, checking]
    rfl

/-- Nobody is told of a start when an outcome is told. -/
theorem started_announce {outcome : Outcome} {t : Trace} {r : Except Fault Unit}
    (run : Runs (announce outcome).attempt t r) : Trace.started t = [] := by
  obtain ⟨hearing, -, seen⟩ := runs_announce run
  unfold Trace.started
  rw [seen]
  cases hearing <;> simp [Closing.sights, Hearing.sights, List.filterMap_map]

/-- After its start a scan tells nobody that it starts, up to the end of the call. -/
theorem exists_start_of_run {t : Trace} {r : Except Fault Report} (run : Runs scan.run t r) :
    ∃ id t₁ t₂ found, t = ⟨.freshId, id⟩ :: (t₁ ++ t₂) ∧ Runs scan.start.attempt t₁ found ∧
      Trace.started t₂ = [] := by
  obtain ⟨id, t₁, ⟨fault, obtained, rfl, rfl⟩ |
    ⟨outcome, t₂, told, obtained, announced, rfl, rfl⟩⟩ := runs_run run
  all_goals
    obtain ⟨t₃, t₄, made, ended, removed, rfl, perform, delete, -⟩ := runs_obtain.1 obtained
    obtain ⟨t₅, t₆, found, rfl, start, performing⟩ :=
      exists_start_of_performed (runs_perform perform)
    have deleting := (delete.about (Snapshot.deleteAll_asks _)).started_eq_nil (by simp)
  · refine ⟨id, t₅, t₆ ++ (t₄ ++ [⟨.enter .idle, ()⟩]), found, by simp, start, ?_⟩
    rw [Trace.started_append, Trace.started_append, performing, deleting]
    rfl
  · refine ⟨id, t₅, t₆ ++ (t₄ ++ ([⟨.conclude outcome, ()⟩] ++ (t₂ ++ [⟨.enter .idle, ()⟩]))),
      found, by simp, start, ?_⟩
    rw [Trace.started_append, Trace.started_append, Trace.started_append, Trace.started_append,
      performing, deleting, started_announce announced]
    rfl

/-- In a call nobody is told that the scan starts, or there is a moment at which the listeners are
told. -/
theorem exists_firing {t : Trace} {r : Except Fault Report} (run : Runs scan.run t r) :
    scan.Unfired t ∨ ∃ f : scan.Firing, f.trace = t := by
  obtain ⟨id, t₁, t₂, found, rfl, start, after⟩ := exists_start_of_run run
  rcases runs_start start with ⟨fault, t₃, rfl, rfl, about⟩ |
    ⟨search, files, registered, telling, ending, rfl, resolve, tell, -⟩
  · have silent : Trace.started t₃ = [] := about.started_eq_nil (by simp)
    refine Or.inl ⟨id, _, t₂, fault, rfl, start, ?_, ?_⟩
    · exact List.forall_mem_cons.2 ⟨nofun, fun e he asked =>
        about.concern_ne (c := .registry) (by simp) e he (congrArg Request.concern asked)⟩
    · change Trace.started (t₃ ++ t₂) = []
      rw [Trace.started_append, silent, after]
      rfl
  · exact Or.inr ⟨⟨id, search, files, registered, telling, ending, t₂, resolve, tell, after⟩, rfl⟩

end Scan

end LiveCheck
