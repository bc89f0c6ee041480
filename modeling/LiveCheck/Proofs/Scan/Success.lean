import LiveCheck.Proofs.Observed
import LiveCheck.Proofs.Scan.Course

/-!
# Scans that end with a success

A scan that ends with a success has gone through all its stages without a fault, or has found no
files.  `Success` names what it worked with on the way, the files, the snapshots and the lines, and
keeps the run of every stage.  `runs_success_iff` says that nothing is lost and nothing is added:
the runs of a scan that conclude with a report are the traces of its successes.
-/

namespace LiveCheck.Scan

open Program Trace

/-- The work between the files of a scan and its report.  Without files there is none.  Otherwise
snapshots are made of the files, the tool is run over the snapshots, and its lines are
attributed. -/
inductive Worked (scan : Scan) (id : String) :
    List Handle → List Snapshot → List String → (making printing reporting : Trace) → Report →
      Prop where
  | nothing : Worked scan id [] [] [] [] [] [] (.empty id)
  | checked {h : Handle} {rest : List Handle} {made : List Snapshot} {lines : List String}
      {t₁ t₂ t₃ : Trace} {report : Report}
      (make : Runs (Snapshot.makeAll scan.settings.scratchDir true (h :: rest)) t₁ (made, .ok ()))
      (print : Runs (scan.print (Snapshot.mapping scan.cwd made).keys).attempt t₂ (.ok lines))
      (parse : Runs (scan.report id (Snapshot.mapping scan.cwd made) lines).attempt t₃
        (.ok report)) :
      Worked scan id (h :: rest) made lines (⟨.enter .snapshotting, ()⟩ :: t₁) t₂ t₃ report

/-- A scan that ends with a success: its files, their snapshots and the lines of the tool, and the
run of every stage. -/
structure Success (scan : Scan) (report : Report) where
  id : String
  files : List Handle
  made : List Snapshot
  lines : List String
  starting : Trace
  making : Trace
  printing : Trace
  reporting : Trace
  deleting : Trace
  telling : Trace
  told : Except Fault Unit
  start : Runs scan.start.attempt starting (.ok files)
  work : Worked scan id files made lines making printing reporting report
  delete : Runs (Snapshot.deleteAll made).attempt deleting (.ok ())
  announced : Runs (announce (.success report)).attempt telling told

namespace Success

variable {scan : Scan} {report : Report}

/-- What happens before lines are attributed. -/
def before (c : Success scan report) : Trace :=
  ⟨.freshId, c.id⟩ :: (c.starting ++ (c.making ++ c.printing))

/-- What happens after lines were attributed. -/
def after (c : Success scan report) : Trace :=
  c.deleting ++ ⟨.conclude (.success report), ()⟩ :: (c.telling ++ [⟨.enter .idle, ()⟩])

/-- The trace of the scan. -/
def trace (c : Success scan report) : Trace := c.before ++ (c.reporting ++ c.after)

/-- The stages up to the report are a run up to the report. -/
theorem runs_perform (c : Success scan report) :
    Runs (scan.perform c.id) (c.starting ++ (c.making ++ (c.printing ++ c.reporting)))
      (c.made, .ok report) := by
  obtain ⟨id, files, made, lines, starting, making, printing, reporting, deleting, telling, told,
    start, work, delete, announced⟩ := c
  dsimp only
  unfold perform
  refine runs_bind.2 ⟨starting, _, _, rfl, start, ?_⟩
  cases work with
  | nothing => exact runs_pure.2 ⟨rfl, rfl⟩
  | checked make print parse =>
    refine runs_request_bind.2 ⟨(), _, rfl, runs_bind.2 ⟨_, _, _, rfl, make, ?_⟩⟩
    refine runs_bind.2 ⟨_, [], .ok report, (List.append_nil _).symm, ?_, runs_pure.2 ⟨rfl, rfl⟩⟩
    unfold check
    exact runs_attempt_bind.2 (Or.inl ⟨_, _, lines, rfl, print, parse⟩)

/-- The trace of a success is a run of the scan, whose result is the report unless a fault leaves
the scan while it is told. -/
theorem runs_run (c : Success scan report) :
    Runs scan.run c.trace (c.told.map fun _ => report) := by
  have obtained : Runs (scan.obtain c.id).attempt
      ((c.starting ++ (c.making ++ (c.printing ++ c.reporting))) ++ c.deleting)
      (.ok (.success report)) :=
    runs_obtain.2 ⟨_, _, c.made, .ok report, .ok (), rfl, c.runs_perform, c.delete, rfl⟩
  have whole : c.trace = ⟨.freshId, c.id⟩ ::
      (((c.starting ++ (c.making ++ (c.printing ++ c.reporting))) ++ c.deleting) ++
        ⟨.conclude (.success report), ()⟩ :: (c.telling ++ [⟨.enter .idle, ()⟩])) := by
    simp [trace, before, after]
  rw [whole]
  unfold Scan.run
  refine runs_request_bind.2 ⟨c.id, _, rfl, runs_bind.2 ⟨_, _, _, rfl, obtained, ?_⟩⟩
  refine runs_request_bind.2 ⟨(), _, rfl, runs_bind.2 ⟨_, _, _, rfl, c.announced, ?_⟩⟩
  exact runs_request_bind.2 ⟨(), [], rfl, runs_pure.2 ⟨rfl, rfl⟩⟩

/-- The trace of a success concludes with its report. -/
theorem conclude_mem_trace (c : Success scan report) :
    ⟨.conclude (.success report), ()⟩ ∈ c.trace := by
  unfold trace after
  simp

end Success

/-- Behind every run that concludes with a report there is a success. -/
theorem exists_success {scan : Scan} {report : Report} {t : Trace} {result : Except Fault Report}
    (run : Runs scan.run t result) (concluded : ⟨.conclude (.success report), ()⟩ ∈ t) :
    ∃ c : Success scan report, c.trace = t ∧ result = c.told.map fun _ => report := by
  -- Nothing is concluded in a stage, so the conclusion is the one of the call itself.
  have nowhere {cs : List Concern} {t : Trace} (about : About cs t) (other : Concern.call ∉ cs) :
      ⟨.conclude (.success report), ()⟩ ∉ t :=
    fun hmem => other (about _ hmem)
  obtain ⟨id, t₁, ⟨fault, obtained, -, rfl⟩ | ⟨outcome, t₂, told, obtained, announced, rfl, rfl⟩⟩ :=
    Scan.runs_run run
  · have quiet := nowhere (obtained.about (obtain_asks scan id)) (by decide)
    simp [quiet] at concluded
  · have quiet₁ := nowhere (obtained.about (obtain_asks scan id)) (by decide)
    have quiet₂ := nowhere (announced.about (announce_asks outcome)) (by decide)
    have same : outcome = .success report := by
      simp [quiet₁, quiet₂] at concluded
      exact concluded.symm
    subst same
    obtain ⟨t₃, deleting, made, ended, removed, rfl, perform, delete, judged⟩ :=
      runs_obtain.1 obtained
    obtain ⟨rfl, rfl⟩ := eq_ok_of_unlockedWith (eq_ok_of_judge judged.symm)
    cases Scan.runs_perform perform with
    | nothing start =>
      exact ⟨⟨_, _, _, _, _, _, _, _, _, _, told, start, .nothing, delete, announced⟩,
        by simp [Success.trace, Success.before, Success.after], rfl⟩
    | prepared start make checked =>
      unfold check at checked
      obtain ⟨t₄, t₅, lines, rfl, print, parse⟩ := runs_attempt_bind_ok.1 checked
      exact ⟨⟨_, _, _, _, _, _, _, _, _, _, told, start, .checked make print parse, delete,
        announced⟩, by simp [Success.trace, Success.before, Success.after], rfl⟩

/-- The runs that conclude with a report are the traces of the successes. -/
theorem runs_success_iff {scan : Scan} {report : Report} {t : Trace}
    {result : Except Fault Report} :
    Runs scan.run t result ∧ ⟨.conclude (.success report), ()⟩ ∈ t ↔
      ∃ c : Success scan report, c.trace = t ∧ result = c.told.map fun _ => report := by
  constructor
  · rintro ⟨run, concluded⟩
    exact exists_success run concluded
  · rintro ⟨c, rfl, rfl⟩
    exact ⟨c.runs_run, c.conclude_mem_trace⟩

end LiveCheck.Scan
