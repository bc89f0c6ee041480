import LiveCheck.Proofs.Scan.Copies
import LiveCheck.Session.Moving

/-!
# Scans that are cancelled

Anybody may cancel a scan at any moment, and the scan learns of it only when it asks for its token.
It asks in many places: at every directory, before every snapshot, while the tool runs.  Three of
these places are enough to say what a cancelled scan does not do.  On entering its first phase,
before the tool is called and before lines are attributed, a scan asks for the token and goes no
further if it is cancelled; `runs_stopped` says so for the three of them at once.  A token that has
tripped stays tripped, so a scan that is cancelled anywhere before one of these places is stopped
there, whatever it meets on the way.  `run_of_tripped` puts this together for a call, its listeners
and the service.
-/

namespace LiveCheck

open Program (Exchange Runs)

/-- Does the scan learn that it is not cancelled? -/
def Program.Exchange.letsPass : Exchange → Bool
  | ⟨.isCancelled, stop⟩ => !stop
  | _ => false

namespace Trace

variable {phase : Phase} {t t' before after : Trace}

/-- The token has been asked for on entering the phase. -/
def Checked (phase : Phase) (t : Trace) : Prop :=
  ∃ a stop b, t = a ++ ⟨.enter phase, ()⟩ :: ⟨.isCancelled, stop⟩ :: b

/-- The scan is cancelled whenever the token is asked for on entering the phase. -/
def StopsAt (phase : Phase) (t : Trace) : Prop :=
  ∀ a stop b, t = a ++ ⟨.enter phase, ()⟩ :: ⟨.isCancelled, stop⟩ :: b → stop = true

/-- From the beginning of the trace on the token has tripped: nobody is let pass. -/
def Tripped (t : Trace) : Prop := ∀ e ∈ t, e.letsPass = false

/-- Where the token was asked for, the phase was entered. -/
theorem Checked.mem_phases (h : Checked phase t) : phase ∈ phases t := by
  obtain ⟨a, stop, b, rfl⟩ := h
  simp [phases, Exchange.sight?, Sight.phase?]

/-- What holds of a whole run holds of every part of it. -/
theorem StopsAt.mono (h : StopsAt phase t) (part : t' <:+: t) : StopsAt phase t' := by
  obtain ⟨front, back, rfl⟩ := part
  rintro a stop b rfl
  exact h (front ++ a) stop (b ++ back) (by simp)

/-- A token that trips before it is asked for on entering a phase stops the scan there. -/
theorem Tripped.stopsAt (tripped : Tripped after) (unchecked : ¬ Checked phase before) :
    StopsAt phase (before ++ after) := by
  intro a stop b cut
  have stopped (h : ⟨.isCancelled, stop⟩ ∈ after) : stop = true := by
    simpa [Exchange.letsPass] using tripped _ h
  rcases List.append_eq_append_iff.1 cut with ⟨c, -, behind⟩ | ⟨c, ahead, across⟩
  · exact stopped (by simp [behind])
  -- The cut runs before the phase, between the phase and the token, or behind the token.
  rcases c with - | ⟨first, - | ⟨second, c⟩⟩
  · rw [List.nil_append] at across
    exact stopped (by simp [← across])
  · simp only [List.cons_append, List.nil_append, List.cons.injEq] at across
    exact stopped (by simp [← across.2])
  · simp only [List.cons_append, List.cons.injEq] at across
    obtain ⟨rfl, rfl, -⟩ := across
    exact absurd ⟨a, stop, c, ahead⟩ unchecked

end Trace

open Trace

namespace Scan

open Program

variable {scan : Scan} {id : String} {made : List Snapshot} {t : Trace}

/-! ### Stages that are stopped -/

/-- A stage that begins with the token is not gone into if the scan is cancelled. -/
theorem runs_stopped {α : Type} {phase : Phase} {a : Action α} {r : Except Fault α}
    (run : Runs (do enter phase; checkCancelled true; a : Action α).attempt t r)
    (stops : StopsAt phase t) :
    t = [⟨.enter phase, ()⟩, ⟨.isCancelled, true⟩] ∧ r = .error .scanCancelled := by
  obtain ⟨t₁, rfl, checking⟩ := runs_enter_bind.1 run
  -- The check itself: the token is asked for first, and the answer decides.
  have check {t : Trace} {r : Except Fault Unit}
      (run : Runs (checkCancelled true).attempt t r) :
      ∃ stop, t = [⟨.isCancelled, stop⟩] ∧
        r = if stop then .error .scanCancelled else .ok () := by
    obtain ⟨_, t₂, stop, rfl, token, rest⟩ := runs_attempt_ofTotal_bind.1 run
    cases runs_request.1 token
    cases stop <;> obtain ⟨rfl, rfl⟩ := runs_done.1 rest <;> exact ⟨_, rfl, rfl⟩
  rcases runs_attempt_bind.1 checking with ⟨t₂, t₃, _, rfl, passed, -⟩ | ⟨fault, rfl, failed⟩
  · obtain ⟨stop, rfl, answer⟩ := check passed
    obtain rfl : stop = true := stops [] stop t₃ rfl
    cases answer
  · obtain ⟨stop, rfl, answer⟩ := check failed
    obtain rfl : stop = true := stops [] stop [] rfl
    cases answer
    exact ⟨rfl, rfl⟩

/-- A check of snapshots that is stopped before the tool does not call it. -/
theorem check_stopped {r : Except Fault Report} (run : Runs (scan.check id made).attempt t r)
    (stops : StopsAt .invoking t) :
    t = [⟨.enter .invoking, ()⟩, ⟨.isCancelled, true⟩] := by
  unfold check at run
  rcases runs_attempt_bind.1 run with ⟨t₁, t₂, lines, rfl, print, -⟩ | ⟨fault, rfl, print⟩
  · cases (runs_stopped print (stops.mono (List.prefix_append _ _).isInfix)).2
  · exact (runs_stopped print stops).1

/-- A check of snapshots that is stopped before its lines are attributed has no report. -/
theorem check_without_report {r : Except Fault Report}
    (run : Runs (scan.check id made).attempt t r) (stops : StopsAt .parsing t) :
    ∃ fault, r = .error fault := by
  unfold check at run
  rcases runs_attempt_bind.1 run with ⟨t₁, t₂, lines, rfl, -, report⟩ | ⟨fault, rfl, -⟩
  · exact ⟨_, (runs_stopped report (stops.mono (List.suffix_append _ _).isInfix)).2⟩
  · exact ⟨fault, rfl⟩

/-! ### Scans that are stopped -/

/-- A scan that is stopped before the tool asks nothing about it. -/
theorem perform_without_tool {r : Except Fault Report} (run : Runs (scan.perform id) t (made, r))
    (stops : StopsAt .invoking t) : ∀ e ∈ t, e.request.concern ≠ .tool := by
  have entered : (Request.enter .snapshotting).concern ≠ .tool := by decide
  cases runs_perform run with
  | unstarted start => exact (start.about (start_asks _)).concern_ne (by decide)
  | nothing start => exact (start.about (start_asks _)).concern_ne (by decide)
  | unprepared start make =>
    have quiet₁ := (start.about (start_asks _)).concern_ne (c := .tool) (by decide)
    have quiet₂ := (make.about (Snapshot.makeAll_asks _ _ _)).concern_ne (c := .tool) (by decide)
    exact List.forall_mem_append.2 ⟨quiet₁, List.forall_mem_cons.2 ⟨entered, quiet₂⟩⟩
  | prepared start make check =>
    have quiet₁ := (start.about (start_asks _)).concern_ne (c := .tool) (by decide)
    have quiet₂ := (make.about (Snapshot.makeAll_asks _ _ _)).concern_ne (c := .tool) (by decide)
    have last : StopsAt .invoking _ := stops.mono ⟨_ ++ _ :: _, [], by simp; rfl⟩
    refine List.forall_mem_append.2 ⟨quiet₁, List.forall_mem_cons.2 ⟨entered, ?_⟩⟩
    refine List.forall_mem_append.2 ⟨quiet₂, ?_⟩
    rw [check_stopped check last]
    simp [Request.concern]

/-- The same up to the outcome. -/
theorem obtain_without_tool {r : Except Fault Outcome} (run : Runs (scan.obtain id).attempt t r)
    (stops : StopsAt .invoking t) : ∀ e ∈ t, e.request.concern ≠ .tool := by
  obtain ⟨t₁, t₂, made, ended, removed, rfl, perform, delete, -⟩ := runs_obtain.1 run
  have quiet₁ := perform_without_tool perform (stops.mono (List.prefix_append _ _).isInfix)
  have quiet₂ := (delete.about (Snapshot.deleteAll_asks _)).concern_ne (c := .tool) (by decide)
  exact List.forall_mem_append.2 ⟨quiet₁, quiet₂⟩

/-- A scan that is stopped before its lines are attributed reports nothing. -/
theorem obtain_without_report {outcome : Outcome}
    (run : Runs (scan.obtain id).attempt t (.ok outcome)) (stops : StopsAt .parsing t) :
    outcome.report = .empty id := by
  obtain ⟨t₁, t₂, made, ended, removed, rfl, perform, -, judged⟩ := runs_obtain.1 run
  -- Only a success reports more than nothing, and its report is that of the stages.
  have stages : ∀ report, ended = .ok report → report = .empty id := by
    rintro report rfl
    cases runs_perform perform with
    | nothing => rfl
    | prepared start make check =>
      have last : StopsAt .parsing _ := stops.mono ⟨_ ++ _ :: _, t₂, by simp; rfl⟩
      obtain ⟨fault, h⟩ := check_without_report check last
      cases h
  cases outcome with
  | success report =>
    exact stages report (eq_ok_of_unlockedWith (eq_ok_of_judge judged.symm)).1
  | cancelled id' =>
    unfold judge at judged
    repeat' split at judged
    all_goals cases judged
    rfl
  | failed id' error =>
    unfold judge at judged
    repeat' split at judged
    all_goals cases judged
    all_goals rfl

/-- A scan that is stopped where it begins is cancelled and has done nothing. -/
theorem obtain_unstarted {r : Except Fault Outcome} (run : Runs (scan.obtain id).attempt t r)
    (stops : StopsAt .discovering t) :
    t = [⟨.enter .discovering, ()⟩, ⟨.isCancelled, true⟩] ∧ r = .ok (.cancelled id) := by
  obtain ⟨t₁, t₂, made, ended, removed, rfl, perform, delete, rfl⟩ := runs_obtain.1 run
  have stopped {t : Trace} {r : Except Fault (List Handle)} (start : Runs scan.start.attempt t r)
      (part : t <:+: t₁ ++ t₂) :=
    runs_stopped start (stops.mono part)
  cases runs_perform perform with
  | unstarted start =>
    obtain ⟨rfl, h⟩ := stopped start (List.prefix_append _ _).isInfix
    cases h
    obtain ⟨rfl, rfl⟩ := runs_attempt_pure.1 delete
    exact ⟨rfl, rfl⟩
  | nothing start => cases (stopped start (List.prefix_append _ _).isInfix).2
  | unprepared start make =>
    cases (stopped start ⟨[], _, by simp; rfl⟩).2
  | prepared start make check =>
    cases (stopped start ⟨[], _, by simp; rfl⟩).2

/-! ### Calls that are cancelled -/

/-- Listeners are told of an outcome and of nothing else. -/
theorem ending_of_mem_announce {outcome : Outcome} {r : Except Fault Unit}
    (run : Runs (announce outcome).attempt t r) {l : Listener} {ending : Ending}
    {reply : Except Fault Unit} (told : ⟨.tellEnd l ending, reply⟩ ∈ t) :
    ending = outcome.ending := by
  obtain ⟨hearing, -, seen⟩ := runs_announce run
  have sight : .ended l ending ∈ sights t := List.mem_filterMap.2 ⟨_, told, rfl⟩
  rw [seen] at sight
  cases hearing <;> simp_all [Closing.sights, Hearing.sights]

/-- Nothing comes of a call: it returns no problems, tells listeners of none, and concludes with
none. -/
structure ReportsNothing (t : Trace) (r : Except Fault Report) : Prop where
  returned : ∀ report, r = .ok report → report.problems = []
  told : ∀ l report reply, ⟨.tellEnd l (.completed report), reply⟩ ∈ t → report.problems = []
  concluded : ∀ outcome, ⟨.conclude outcome, ()⟩ ∈ t → outcome.report.problems = []

/-- Nothing comes of a call that is stopped before its lines are attributed. -/
theorem reportsNothing_of_stopsAt {r : Except Fault Report} (run : Runs scan.run t r)
    (stops : StopsAt .parsing t) : ReportsNothing t r := by
  obtain ⟨id, t₁, ⟨fault, obtained, rfl, rfl⟩ |
    ⟨outcome, t₂, told, obtained, announced, rfl, rfl⟩⟩ := runs_run run
  all_goals
    -- Up to its outcome a scan tells nobody of an end and concludes nothing.
    have silent := isTerminal_of_mem_obtain obtained
    have undecided := (obtained.about (obtain_asks scan id)).concern_ne (c := .call) (by decide)
  · refine ⟨fun _ h => (by cases h), fun l report reply h => ?_, fun outcome h => ?_⟩
    · have h' : ⟨.tellEnd l (.completed report), reply⟩ ∈ t₁ := by simpa using h
      cases silent _ h'
    · have h' : ⟨.conclude outcome, ()⟩ ∈ t₁ := by simpa using h
      exact absurd rfl (undecided _ h')
  · have empty : outcome.report = .empty id :=
      obtain_without_report obtained (stops.mono (List.infix_append' [_] t₁ _))
    have decided :=
      (announced.about (announce_asks outcome)).concern_ne (c := .call) (by decide)
    refine ⟨fun report h => ?_, fun l report reply h => ?_, fun outcome' h => ?_⟩
    · cases told with
      | error fault => cases h
      | ok u =>
        cases h
        rw [empty]
        rfl
    · have h' : ⟨.tellEnd l (.completed report), reply⟩ ∈ t₁ ∨
          ⟨.tellEnd l (.completed report), reply⟩ ∈ t₂ := by simpa using h
      rcases h' with h' | h'
      · cases silent _ h'
      · have same := ending_of_mem_announce announced h'
        cases outcome <;> cases same <;> exact congrArg Report.problems empty
    · have h' : ⟨.conclude outcome', ()⟩ ∈ t₁ ∨ outcome' = outcome ∨
          ⟨.conclude outcome', ()⟩ ∈ t₂ := by simpa using h
      rcases h' with h' | rfl | h'
      · exact absurd rfl (undecided _ h')
      · rw [empty]
        rfl
      · exact absurd rfl (decided _ h')

/-- A call that is stopped before the tool asks nothing about it. -/
theorem run_without_tool {r : Except Fault Report} (run : Runs scan.run t r)
    (stops : StopsAt .invoking t) : ∀ e ∈ t, e.request.concern ≠ .tool := by
  obtain ⟨id, t₁, ⟨fault, obtained, rfl, rfl⟩ |
    ⟨outcome, t₂, told, obtained, announced, rfl, rfl⟩⟩ := runs_run run
  all_goals
    have quiet := obtain_without_tool obtained (stops.mono (List.infix_append' [_] t₁ _))
    refine List.forall_mem_cons.2 ⟨by simp [Request.concern], List.forall_mem_append.2 ⟨quiet, ?_⟩⟩
  · simp [Request.concern]
  · have quiet₂ := (announced.about (announce_asks outcome)).concern_ne (c := .tool) (by decide)
    refine List.forall_mem_cons.2 ⟨by simp [Request.concern], ?_⟩
    exact List.forall_mem_append.2 ⟨quiet₂, by simp [Request.concern]⟩

/-- A call that is stopped where it begins makes no copies, tells nobody that it starts, and
concludes that it was cancelled. -/
theorem run_unstarted {r : Except Fault Report} (run : Runs scan.run t r)
    (stops : StopsAt .discovering t) :
    (∀ e ∈ t, e.request.concern ≠ .copy) ∧ (∀ l files reply, ⟨.tellStart l files, reply⟩ ∉ t) ∧
      ∃ id, ⟨.conclude (.cancelled id), ()⟩ ∈ t := by
  obtain ⟨id, t₁, ⟨fault, obtained, -, rfl⟩ |
    ⟨outcome, t₂, told, obtained, announced, -, rfl⟩⟩ := runs_run run
  all_goals
    have unstarted := obtain_unstarted obtained (stops.mono (List.infix_append' [_] t₁ _))
  · cases unstarted.2
  · obtain ⟨rfl, same⟩ := unstarted
    cases same
    refine ⟨?_, fun l files reply h => ?_, id, by simp⟩
    · have quiet := (announced.about (announce_asks _)).concern_ne (c := .copy) (by decide)
      simpa [Request.concern, or_imp, forall_and] using quiet
    · have h' : ⟨.tellStart l files, reply⟩ ∈ t₂ := by simpa using h
      obtain ⟨hearing, -, seen⟩ := runs_announce announced
      have sight : .started l files ∈ sights t₂ := List.mem_filterMap.2 ⟨_, h', rfl⟩
      rw [seen] at sight
      cases hearing <;> simp [Closing.sights, Hearing.sights, Outcome.error?] at sight

/-- A report without problems and its success are all that a service takes from a call of which
nothing comes. -/
theorem ReportsNothing.last_record {report : Report} (h : ReportsNothing t (.ok report))
    (service : Service) (number : ScanNumber) {outcome : Outcome} (same : outcome.report = report) :
    (service.record number report outcome).last = service.last ∨
      ∃ id, (service.record number report outcome).last =
        some ⟨number, .empty id, .success (.empty id)⟩ := by
  unfold Service.record
  split
  next counts =>
    have success := Outcome.eq_success counts.1
    have empty : report = .empty report.id := by
      obtain ⟨id, problems⟩ := report
      exact congrArg (Report.mk id) (h.returned _ rfl)
    exact Or.inr ⟨report.id, by rw [← empty, success, same]⟩
  next => exact Or.inl rfl

/-- The same for the service in which the scan ran, which has noted how the call concluded. -/
theorem ReportsNothing.last_afterScan {r : Except Fault Report} (h : ReportsNothing t r)
    (run : Runs scan.run t r) (b : Background) (number : ScanNumber)
    (noted : ∀ outcome, (b.planned.get? number).bind (·.outcome) = some outcome →
      ⟨.conclude outcome, ()⟩ ∈ t) :
    (Session.afterScan b number r).service.last = b.service.last ∨
      ∃ id, (Session.afterScan b number r).service.last =
        some ⟨number, .empty id, .success (.empty id)⟩ := by
  unfold Session.afterScan
  dsimp only [Service.forget]
  split
  next report outcome planned =>
    exact h.last_record b.service number (report_of_concluded run (noted _ planned))
  next => exact Or.inl rfl

/-- What cancelling a scan brings about.  The run is cut where the token trips.  If that is before
the token is asked for at the beginning, nobody is told that the scan starts and no copy is made;
if it is before the token is asked for ahead of the tool, the tool is not used; and if it is before
the scan goes on to the lines of the tool, nothing comes of the call, and the service keeps the
report that it has or one without problems. -/
theorem run_of_tripped {before after : Trace} {r : Except Fault Report}
    (run : Runs scan.run (before ++ after) r) (tripped : Tripped after) :
    (¬ Checked .discovering before →
      (∀ e ∈ before ++ after, e.request.concern ≠ .copy) ∧
      (∀ l files reply, ⟨.tellStart l files, reply⟩ ∉ before ++ after) ∧
      ∃ id, ⟨.conclude (.cancelled id), ()⟩ ∈ before ++ after) ∧
    (¬ Checked .invoking before → ∀ e ∈ before ++ after, e.request.concern ≠ .tool) ∧
    (.parsing ∉ phases before →
      ReportsNothing (before ++ after) r ∧
      ∀ (b : Background) (number : ScanNumber),
        (∀ outcome, (b.planned.get? number).bind (·.outcome) = some outcome →
          ⟨.conclude outcome, ()⟩ ∈ before ++ after) →
        (Session.afterScan b number r).service.last = b.service.last ∨
          ∃ id, (Session.afterScan b number r).service.last =
            some ⟨number, .empty id, .success (.empty id)⟩) := by
  refine ⟨fun unchecked => run_unstarted run (tripped.stopsAt unchecked),
    fun unchecked => run_without_tool run (tripped.stopsAt unchecked), fun unentered => ?_⟩
  have nothing : ReportsNothing (before ++ after) r :=
    reportsNothing_of_stopsAt run (tripped.stopsAt fun checked => unentered checked.mem_phases)
  exact ⟨nothing, fun b number noted => nothing.last_afterScan run b number noted⟩

/-- A listener follows a scan whose tool prints an error, and the scan is cancelled as soon as
something of this sort is asked for. -/
def cancelledAt (moment : Concern) (cancelled : Bool) (r : Request) : r.Reply × Bool :=
  (match r with
    | .isCancelled => cancelled
    | .listeners => [⟨"follower"⟩]
    | .invoke _ _ => .ok ["/p/a.py:1:1: error: boom"]
    | r => r.nothing, cancelled || r.concern = moment)

/-- A scan of one file that is cancelled at its beginning, while texts are read, and while the tool
runs. -/
theorem cancelled_at_three_moments :
    let scan := provided [{ path := "/p/a.py" }]
    let t (moment : Concern) := (record (cancelledAt moment) false scan.run).1
    let b : Background :=
      { pool := { workers := 1 }, settings := scan.settings, runner := none, gates := [],
        documents := none,
        planned := [(1, { scan, listeners := [], plans := [], outcome := some (.cancelled "") })] }
    (∀ e ∈ t .call, e.request.concern ≠ .copy) ∧
      (∀ e ∈ t .text, e.request.concern ≠ .tool) ∧
      (∃ e ∈ t .tool, e.request.concern = .tool) ∧ ReportsNothing (t .tool) (.ok (.empty "")) ∧
      ((Session.afterScan b 1 (.ok (.empty ""))).service.last = none ∨
        ∃ id, (Session.afterScan b 1 (.ok (.empty ""))).service.last =
          some ⟨1, .empty id, .success (.empty id)⟩) := by
  intro scan t b
  have run (moment : Concern) (n : ℕ) :
      Runs scan.run ((t moment).take n ++ (t moment).drop n)
        (record (cancelledAt moment) false scan.run).2.1 := by
    rw [List.take_append_drop]
    exact runs_record _ _ _
  have unchecked (phase : Phase) {t : Trace} (h : phase ∉ phases t) : ¬ Checked phase t :=
    fun checked => h checked.mem_phases
  obtain ⟨start, -, -⟩ := run_of_tripped (run .call 1) (by unfold Tripped; decide +kernel)
  obtain ⟨-, tool, -⟩ := run_of_tripped (run .text 12) (by unfold Tripped; decide +kernel)
  obtain ⟨-, -, lines⟩ := run_of_tripped (run .tool 20) (by unfold Tripped; decide +kernel)
  rw [List.take_append_drop] at start tool lines
  have result : (record (cancelledAt .tool) false scan.run).2.1 = .ok (.empty "") := by
    decide +kernel
  rw [result] at lines
  obtain ⟨nothing, kept⟩ := lines (by decide +kernel)
  refine ⟨(start (unchecked _ (by decide +kernel))).1, tool (unchecked _ (by decide +kernel)),
    by decide +kernel, nothing, kept b 1 fun outcome noted => ?_⟩
  cases noted
  exact List.mem_of_getElem? (i := 23) rfl

end Scan

end LiveCheck
