import LiveCheck.Proofs.Service.Operation

/-!
# The newest success is kept

Scans end in any order, and each in its own way.  A service keeps the report of the scan with the
greatest number among those whose success was recorded: a success is kept only if it is newer than
what is kept, so the number of the scan that is kept never goes down.  A worker records before it
gives the future its result, so whoever has the result of a success finds a report that is at least
as new.

`Newest` is the invariant.  It speaks of what is kept, of the stages of the workers and of the
futures alone, so most steps keep it as it is.
-/

namespace LiveCheck

open Program (Runs)

namespace Operation

variable {κ : Type} [DecidableEq κ] {scans : ScanNumber → Scan} {workers : Nat}
  {s s' : Operation κ}

/-- The success of a scan was recorded: its call returned this report and had this outcome. -/
def Succeeded (s : Operation κ) (number : ScanNumber) (report : Report) (outcome : Outcome) :
    Prop :=
  s.stages number = .recorded report outcome ∧ outcome.isSuccess = true

/-! ### The invariant -/

/-- What is kept is the newest success that was recorded, with what its call returned and its
outcome.  A scan that has come anywhere has a number above zero, its call returns the report of its
outcome, and its future has no result before the scan is recorded. -/
structure Newest (last : Option Recorded) (stages : ScanNumber → Stage)
    (futures : Table ScanNumber Future) : Prop where
  positive : ∀ number, stages number ≠ .unended → 0 < number
  same : ∀ number report outcome, stages number = .returned report outcome →
    outcome.report = report
  kept : ∀ recorded, last = some recorded →
    recorded.outcome = .success recorded.report ∧
      stages recorded.number = .recorded recorded.report recorded.outcome
  newest : ∀ number report report', stages number = .recorded report (.success report') →
    number ≤ (last.map (·.number)).getD 0
  resolved : ∀ number report, futures.get? number = some (.done report) →
    ∃ outcome, stages number = .recorded report outcome

variable {last : Option Recorded} {stages : ScanNumber → Stage} {futures : Table ScanNumber Future}
  {number : ScanNumber}

/-- A future changes that is not done afterwards, or has the result that its worker gives it. -/
theorem Newest.put (h : Newest last stages futures) {future : Future}
    (given : ∀ report, future = .done report →
      ∃ outcome, stages number = .recorded report outcome) :
    Newest last stages (futures.put number future) where
  positive := h.positive
  same := h.same
  kept := h.kept
  newest := h.newest
  resolved number' report done_ := by
    by_cases hn : number' = number
    · subst hn
      rw [Table.get?_put_self] at done_
      exact given report (Option.some.inj done_)
    · rw [Table.get?_put_of_ne _ _ hn] at done_
      exact h.resolved number' report done_

/-- The stage of a scan changes whose outcome was not recorded before, and with it perhaps what is
kept. -/
theorem Newest.move (h : Newest last stages futures) {last' : Option Recorded} {stage : Stage}
    (positive : 0 < number)
    (unrecorded : ∀ report outcome, stages number ≠ .recorded report outcome)
    (same : ∀ report outcome, stage = .returned report outcome → outcome.report = report)
    (kept : ∀ recorded, last' = some recorded → last = some recorded ∨
      recorded.number = number ∧ recorded.outcome = .success recorded.report ∧
        stage = .recorded recorded.report recorded.outcome)
    (grown : (last.map (·.number)).getD 0 ≤ (last'.map (·.number)).getD 0)
    (newest : ∀ report report', stage = .recorded report (.success report') →
      number ≤ (last'.map (·.number)).getD 0) :
    Newest last' (Function.update stages number stage) futures := by
  have still {number' : ScanNumber} {report : Report} {outcome : Outcome}
      (recorded : stages number' = .recorded report outcome) :
      Function.update stages number stage number' = .recorded report outcome := by
    refine (Function.update_of_ne ?_ ..).trans recorded
    rintro rfl
    exact unrecorded _ _ recorded
  refine ⟨?_, ?_, fun recorded is => ?_, ?_, fun number' report done_ => ?_⟩
  · exact (Function.forall_update_iff stages fun number' stage =>
      stage ≠ .unended → 0 < number').2 ⟨fun _ => positive, fun number' _ => h.positive number'⟩
  · exact (Function.forall_update_iff stages fun number' stage => ∀ report outcome,
      stage = .returned report outcome → outcome.report = report).2
        ⟨same, fun number' _ => h.same number'⟩
  · rcases kept recorded is with before | ⟨rfl, success, now⟩
    · exact (h.kept recorded before).imp_right still
    · exact ⟨success, (Function.update_self ..).trans now⟩
  · exact (Function.forall_update_iff stages fun number' stage => ∀ report report',
      stage = .recorded report (.success report') →
        number' ≤ (last'.map (·.number)).getD 0).2
      ⟨newest, fun number' _ report report' is => (h.newest number' report report' is).trans grown⟩
  · obtain ⟨outcome, is⟩ := h.resolved number' report done_
    exact ⟨outcome, still is⟩

/-- The call of a scan ends. -/
theorem Newest.ends (h : Newest last stages futures) {stage : Stage} (positive : 0 < number)
    (unended : stages number = .unended)
    (same : ∀ report outcome, stage = .returned report outcome → outcome.report = report)
    (unrecorded : ∀ report outcome, stage ≠ .recorded report outcome) :
    Newest last (Function.update stages number stage) futures :=
  h.move positive (fun _ _ => by rw [unended]; nofun) same (fun _ is => Or.inl is) le_rfl
    fun _ _ is => absurd is (unrecorded _ _)

/-- A worker records a scan.  What is kept is replaced only by a newer success, so it is still the
newest afterwards. -/
theorem Newest.records {service : Service} {report : Report} {outcome : Outcome}
    (h : Newest service.last stages futures)
    (returned : stages number = .returned report outcome) :
    Newest (service.record number report outcome).last
      (Function.update stages number (.recorded report outcome)) futures := by
  have positive : 0 < number := h.positive number (by rw [returned]; nofun)
  refine h.move positive (fun _ _ => by rw [returned]; nofun) nofun (fun recorded kept => ?_)
    (service.lastNumber_le_record number report outcome) fun report' report'' is => ?_
  · rw [Service.last_record] at kept
    split at kept
    next counts =>
      cases kept
      have success := Outcome.eq_success counts.1
      rw [h.same number report outcome returned] at success
      exact Or.inr ⟨rfl, success, rfl⟩
    next => exact Or.inl kept
  · cases is
    exact service.le_lastNumber_record number report rfl

/-- A new service keeps nothing, and nobody has come anywhere. -/
theorem newest_start : Newest none (fun _ => .unended) [] where
  positive _ moved := absurd rfl moved
  same _ _ _ returned := nomatch returned
  kept _ kept := nomatch kept
  newest _ _ _ recorded := nomatch recorded
  resolved _ _ done_ := nomatch done_

/-- One step. -/
theorem Newest.step (h : Newest s.service.last s.stages s.pool.futures)
    (numbered : Numbered s.service.accepted s.pool.futures) (step : Step scans s s') :
    Newest s'.service.last s'.stages s'.pool.futures := by
  cases step with
  | submit accepted =>
    obtain ⟨-, rfl, rfl⟩ := Service.submit_eq_ok accepted
    exact h.put nofun
  | begins waits => exact h.put nofun
  | returns running unended run concluded =>
    refine h.ends (numbered.bounds running).1 unended (fun report outcome is => ?_) nofun
    cases is
    exact Scan.report_of_concluded run concluded
  | leaves running unended run => exact h.ends (numbered.bounds running).1 unended nofun nofun
  | records returned => exact h.records returned
  | @resolves number result running ended =>
    refine h.put fun report is => ?_
    cases stage : s.stages number with
    | unended | returned => rw [stage] at ended; cases ended
    | recorded report' outcome =>
      rw [stage] at ended
      cases ended
      cases is
      exact ⟨outcome, rfl⟩
    | left fault =>
      rw [stage] at ended
      cases ended
      cases is
  | @withdraws number waits =>
    have put : Newest s.service.last s.stages (s.pool.futures.put number .withdrawn) :=
      h.put nofun
    rwa [← Pool.futures_withdraw waits] at put
  | attach | forgets | shuts | closes | reads | trips | counts => exact h

/-- The invariant holds as long as a service is in operation. -/
theorem Reachable.newest (reached : Reachable scans workers s) :
    Newest s.service.last s.stages s.pool.futures := by
  induction reached with
  | refl => exact newest_start
  | tail before step ih => exact ih.step (Reachable.numbered before) step

/-- One step does not lower the number of the scan that is kept. -/
theorem Step.lastNumber_le (step : Step scans s s') :
    s.service.lastNumber ≤ s'.service.lastNumber := by
  cases step with
  | submit accepted =>
    obtain ⟨-, -, rfl⟩ := Service.submit_eq_ok accepted
    exact le_rfl
  | records returned => exact Service.lastNumber_le_record _ _ _ _
  | _ => exact le_rfl

/-- The number of the scan that is kept never goes down. -/
theorem Leads.lastNumber_le (leads : Leads scans s s') :
    s.service.lastNumber ≤ s'.service.lastNumber := by
  induction leads with
  | refl => exact le_rfl
  | tail _ step ih => exact ih.trans step.lastNumber_le

/-- The newest success wins, in whatever order scans are submitted, end, are recorded and get their
results.  Scans are numbered in the order of their submission and no number is given twice.  What
is kept is the report of the newest scan whose success was recorded, and its outcome, which is the
success with this report; the number of that scan never goes down.  Whoever has the result of a
success finds one kept that is at least as new. -/
theorem newest_wins (reached : Reachable scans workers s) :
    s.pool.futures.keys = List.range' 1 s.service.accepted ∧
    ((∀ number report outcome, ¬ s.Succeeded number report outcome) ∧
        s.service.lastReport = none ∧ s.service.lastOutcome = none ∨
      ∃ number report outcome, s.Succeeded number report outcome ∧
        outcome = .success report ∧
        (∀ number' report' outcome', s.Succeeded number' report' outcome' → number' ≤ number) ∧
        s.service.lastNumber = number ∧ s.service.lastReport = some report ∧
        s.service.lastOutcome = some outcome) ∧
    (∀ s', Leads scans s s' → s.service.lastNumber ≤ s'.service.lastNumber ∧
      ∀ number service, s'.service.submit = .ok (number, service) →
        ∀ earlier ∈ s.pool.futures.keys, earlier < number) ∧
    ∀ number report, s.pool.futures.get? number = some (.done report) →
      ∃ outcome, s.stages number = .recorded report outcome ∧
        (outcome.isSuccess = true → 0 < number ∧ number ≤ s.service.lastNumber) := by
  have numbered := Reachable.numbered reached
  have h := Reachable.newest reached
  refine ⟨numbered, ?_, fun s' leads => ⟨leads.lastNumber_le, fun number service next => ?_⟩,
    fun number report done_ => ?_⟩
  · have bound {number : ScanNumber} {report : Report} {outcome : Outcome}
        (succeeded : s.Succeeded number report outcome) : number ≤ s.service.lastNumber := by
      obtain ⟨recorded, success⟩ := succeeded
      cases outcome with
      | success report' => exact h.newest number report report' recorded
      | cancelled | failed => cases success
    cases kept : s.service.last with
    | none =>
      refine Or.inl ⟨fun number report outcome succeeded => ?_, ?_⟩
      · have positive := h.positive number (by rw [succeeded.1]; nofun)
        have le := bound succeeded
        rw [Service.lastNumber, kept] at le
        exact absurd positive (not_lt.2 le)
      · rw [Service.lastOutcome, Service.lastReport, kept]
        exact ⟨rfl, rfl⟩
    | some recorded =>
      obtain ⟨success, stage⟩ := h.kept recorded kept
      refine Or.inr ⟨recorded.number, recorded.report, recorded.outcome,
        ⟨stage, by rw [success]; rfl⟩, success, fun _ _ _ succeeded => (bound succeeded).trans ?_,
        ?_⟩
      · rw [Service.lastNumber, kept]
        exact le_rfl
      · rw [Service.lastNumber, Service.lastOutcome, Service.lastReport, kept]
        exact ⟨rfl, rfl, rfl⟩
  · rintro earlier known
    obtain ⟨-, rfl, -⟩ := Service.submit_eq_ok next
    rw [numbered, List.mem_range'_1] at known
    exact Nat.lt_succ_of_le ((Nat.lt_one_add_iff.1 known.2).trans leads.accepted_le)
  · obtain ⟨outcome, recorded⟩ := h.resolved number report done_
    refine ⟨outcome, recorded, fun success => ?_⟩
    have positive := h.positive number (by rw [recorded]; nofun)
    cases outcome with
    | success report' => exact ⟨positive, h.newest number report report' recorded⟩
    | cancelled | failed => cases success

/-! ### A scan that ends late -/

/-- A scan of nothing gets this name. -/
def named (id : String) : (r : Request) → r.Reply
  | .freshId => id
  | r => r.nothing

/-- Two scans were submitted and begun, and both have returned. -/
def bothReturned : Operation Unit where
  service := { accepted := 2, inFlight := [1, 2] }
  pool := { workers := 2, futures := [(1, .running), (2, .running)] }
  stages := Function.update (Function.update (fun _ => .unended)
    1 (.returned (.empty "older") (.success (.empty "older"))))
    2 (.returned (.empty "newer") (.success (.empty "newer")))
  notes := fun _ => .unattached
  sweeps := fun _ => .unbegun

/-- The second scan was recorded first, and then the first one, which has got its result. -/
def olderLate : Operation Unit where
  service :=
    { accepted := 2, inFlight := [1, 2]
      last := some ⟨2, .empty "newer", .success (.empty "newer")⟩ }
  pool := { workers := 2, futures := [(1, .done (.empty "older")), (2, .running)] }
  stages := Function.update (Function.update bothReturned.stages
    2 (.recorded (.empty "newer") (.success (.empty "newer"))))
    1 (.recorded (.empty "older") (.success (.empty "older")))
  notes := Function.update (fun _ => .unattached) 1 .unattached
  sweeps := fun _ => .unbegun

/-- Two scans of nothing return. -/
theorem reachable_bothReturned : Reachable idleScans 2 bothReturned := by
  let played (id : String) := Program.answered (named id) (idleScans 0).run
  have run (id : String) : Runs (idleScans 0).run (played id).1 (.ok (.empty id)) :=
    Program.runs_answered (named id) _
  have concluded (id : String) : ⟨.conclude (.success (.empty id)), ()⟩ ∈ (played id).1 :=
    List.mem_of_getElem? (i := 7) rfl
  have first := reachable_twoAccepted.tail
    (.begins (show Table.get? _ 1 = some Future.pending from rfl))
  have second := first.tail (.begins (show Table.get? _ 2 = some Future.pending from rfl))
  have older := second.tail (.returns (show Table.get? _ 1 = some Future.running from rfl) rfl
    (run "older") (concluded "older"))
  exact older.tail (.returns (show Table.get? _ 2 = some Future.running from rfl) rfl
    (run "newer") (concluded "newer"))

/-- The scan that was submitted last is recorded first, and its report stays. -/
theorem older_never_replaces :
    Reachable idleScans 2 olderLate ∧
      olderLate.service.lastReport = some (.empty "newer") ∧
      (∀ s', Leads idleScans olderLate s' → 2 ≤ s'.service.lastNumber) ∧
      ∃ outcome, olderLate.stages 1 = .recorded (.empty "older") outcome ∧
        (outcome.isSuccess = true → 0 < 1 ∧ 1 ≤ olderLate.service.lastNumber) := by
  let recorded (id : String) : Stage := .recorded (.empty id) (.success (.empty id))
  let between : Operation Unit := { bothReturned with
    service := { bothReturned.service with
      last := some ⟨2, .empty "newer", .success (.empty "newer")⟩ }
    stages := Function.update bothReturned.stages 2 (recorded "newer") }
  have second : bothReturned.stages 2 = .returned (.empty "newer") (.success (.empty "newer")) :=
    rfl
  have newer : Reachable idleScans 2 between := reachable_bothReturned.tail (.records second)
  have first : between.stages 1 = .returned (.empty "older") (.success (.empty "older")) := rfl
  have older := newer.tail (.records first)
  have reached : Reachable idleScans 2 olderLate :=
    older.tail (.resolves (show Table.get? _ 1 = some Future.running from rfl)
      (show Stage.result? _ = some (.ok (.empty "older")) from rfl))
  obtain ⟨-, -, later, resolved⟩ := newest_wins reached
  exact ⟨reached, rfl, fun s' leads => (later s' leads).1, resolved 1 _ rfl⟩

end Operation

end LiveCheck
