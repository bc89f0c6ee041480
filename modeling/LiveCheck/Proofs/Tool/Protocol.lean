import LiveCheck.Proofs.Tool
import LiveCheck.Proofs.Tool.Output

/-!
# What a run of the tool promises

A run of the tool starts one process at most, and none if the token has tripped before.  It is
cancelled exactly if a check finds the token tripped, before the start or between two waits; in the
second case the process is killed, once, and in no other.  When the output is collected, the status,
the lines and the complaint decide whether the lines are returned, and these are the lines of which
the output consists (`Printed`), all of them and no others.

`Protocol` holds these promises.  Each of the four orders in which the events of a run can come
keeps them, and so does every run (`run_protocol`).
-/

namespace LiveCheck

open Program

namespace Tool

variable {t : Trace} {cancellable : Bool} {settings : Settings} {root : String}
  {paths : List String}

/-! ### The moments at which the token trips -/

/-- A check finds the token tripped before an attempt is made to start a process. -/
def TrippedFirst (t : Trace) : Prop :=
  ∃ before after, events t = before ++ .tripped :: after ∧ ∀ e ∈ before, e.attempts = false

/-- A check finds the token tripped after a process was started and before its output is
collected. -/
def TrippedMeanwhile (t : Trace) : Prop :=
  ∃ before after, events t = before ++ .tripped :: after ∧
    .started ∈ before ∧ ∀ e ∈ before, e.collects = false

/-- Without a check that finds the token tripped it is not found tripped at any moment. -/
theorem untripped (never : .tripped ∉ events t) : ¬ TrippedFirst t ∧ ¬ TrippedMeanwhile t := by
  constructor
  · rintro ⟨before, after, split, -⟩
    exact never (by simp [split])
  · rintro ⟨before, after, split, -⟩
    exact never (by simp [split])

/-- A token that is found tripped before everything else stops the run. -/
theorem tripped_first (first : events t = [.tripped]) :
    TrippedFirst t ∧ ¬ TrippedMeanwhile t := by
  refine ⟨⟨[], [], first, nofun⟩, ?_⟩
  rintro ⟨before, after, split, started, -⟩
  have mem : Event.started ∈ events t := by simp [split, started]
  simp [first] at mem

/-- A token that is found tripped behind the start is not found tripped before it. -/
theorem tripped_meanwhile (meanwhile : events t = [.started, .tripped, .killed]) :
    ¬ TrippedFirst t ∧ TrippedMeanwhile t := by
  refine ⟨?_, [.started], [.killed], meanwhile, List.mem_singleton_self _,
    List.forall_mem_singleton.2 rfl⟩
  rintro ⟨before, after, split, idle⟩
  rw [meanwhile] at split
  cases before with
  | nil => cases split
  | cons first before =>
    obtain ⟨rfl, -⟩ := List.cons.inj split
    cases idle .started List.mem_cons_self

/-! ### The end of the process -/

/-- The tool has done its work: it ends with status 0 or 1, or with status 2 and with a report
among its lines or without a complaint. -/
def Done (c : Completion) : Prop :=
  c.status = 0 ∨ c.status = 1 ∨
    c.status = 2 ∧ ((∃ ls, Printed c.stdout ls ∧ ∃ line ∈ ls, ReportLine.isReport line = true) ∨
      Text.isBlankString c.stderr = true)

/-- The check whether the tool has done its work. -/
theorem isDone_iff {c : Completion} : isDone c = true ↔ Done c := by
  have reports : (∃ line ∈ lines c, ReportLine.isReport line = true) ↔
      ∃ ls, Printed c.stdout ls ∧ ∃ line ∈ ls, ReportLine.isReport line = true := by
    simp only [← lines_eq_iff, exists_eq_left']
  unfold Done
  rw [← reports]
  simp [isDone, or_assoc]

/-- The result of a tool that has ended: the lines of its output if it has done its work, and else a
failure with its status and its complaint. -/
theorem result_spec (c : Completion) :
    (∀ ls, Done c → Printed c.stdout ls → result c = .ok ls) ∧
    (¬ Done c → ∃ message,
      result c = .error (.failure (.tool (some c.status) (some c.stderr)) message)) := by
  rw [← isDone_iff]
  unfold result
  refine ⟨fun ls done printed => ?_, fun undone => ⟨_, if_neg undone⟩⟩
  rw [if_pos done, lines_eq_iff.2 printed]

/-- Every output consists of some lines. -/
theorem exists_printed (output : String) : ∃ ls, Printed output ls :=
  ⟨_, lines_eq_iff (c := { status := 0, stdout := output, stderr := "" }).1 rfl⟩

/-- Lines are returned only if the tool has done its work, and then they are those of its output. -/
theorem result_eq_ok_iff {c : Completion} {ls : List String} :
    result c = .ok ls ↔ Done c ∧ Printed c.stdout ls := by
  obtain ⟨returned, refused⟩ := result_spec c
  constructor
  · intro ok
    by_cases done : Done c
    · obtain ⟨ls', printed⟩ := exists_printed c.stdout
      obtain rfl : ls' = ls := Except.ok.inj ((returned ls' done printed).symm.trans ok)
      exact ⟨done, printed⟩
    · obtain ⟨message, failed⟩ := refused done
      cases failed.symm.trans ok
  · rintro ⟨done, printed⟩
    exact returned ls done printed

/-! ### The promises -/

/-- What is promised of a run of the tool. -/
structure Protocol (cancellable : Bool) (t : Trace) (r : Except Fault (List String)) : Prop where
  /-- The token is asked before the start and before each wait. -/
  guarded : Guarded cancellable t
  /-- There is one attempt to start a process at most. -/
  started : (events t).countP Event.attempts ≤ 1
  /-- There is none if the token is found tripped before. -/
  unstarted : TrippedFirst t → (events t).countP Event.attempts = 0
  /-- The run is cancelled exactly if the token is found tripped, before the start or before the
  output is collected. -/
  cancelled_iff : (∃ message, r = .error (.cancelled message)) ↔ TrippedFirst t ∨ TrippedMeanwhile t
  /-- The process is killed once if the token trips while it runs. -/
  killed : TrippedMeanwhile t → (events t).count .killed = 1
  /-- It is never killed otherwise. -/
  spared : ¬ TrippedMeanwhile t → (events t).count .killed = 0
  /-- A tool that has done its work has its lines returned. -/
  returns : ∀ c, ⟨.collect, c⟩ ∈ t → Done c → ∃ ls, r = .ok ls
  /-- Lines are returned only then, and they are the lines of which its output consists. -/
  returned_iff : ∀ c, ⟨.collect, c⟩ ∈ t → ∀ ls, r = .ok ls ↔ Done c ∧ Printed c.stdout ls
  /-- Otherwise the failure carries its status and its complaint. -/
  refused : ∀ c, ⟨.collect, c⟩ ∈ t → ¬ Done c →
    ∃ message, r = .error (.failure (.tool (some c.status) (some c.stderr)) message)
  /-- A process that cannot be started is a failure without a status, and its cause is known. -/
  failed : ∀ words directory fault, ⟨.start words directory, .error fault⟩ ∈ t →
    ∃ message, r = .error (.failureFrom (.tool none none) message fault)
  /-- There is no other way for a run to go. -/
  ends : TrippedFirst t ∨ TrippedMeanwhile t ∨ (∃ c, ⟨.collect, c⟩ ∈ t) ∨
    ∃ words directory fault, ⟨.start words directory, .error fault⟩ ∈ t

/-- What is collected is an event. -/
theorem collected_mem {c : Completion} (there : ⟨.collect, c⟩ ∈ t) : .collected c ∈ events t :=
  List.mem_filterMap.2 ⟨_, there, rfl⟩

/-- A failed start is an event. -/
theorem unstarted_mem {words : List String} {directory : String} {fault : Fault}
    (there : ⟨.start words directory, .error fault⟩ ∈ t) : .unstarted fault ∈ events t :=
  List.mem_filterMap.2 ⟨_, there, rfl⟩

/-- An output that is an event was collected. -/
theorem exists_collect {c : Completion} (there : .collected c ∈ events t) :
    ⟨.collect, c⟩ ∈ t := by
  obtain ⟨e, mem, same⟩ := List.mem_filterMap.1 there
  unfold event? at same
  split at same <;> cases same
  exact mem

/-- A run that is cancelled before the start keeps the protocol. -/
theorem protocol_of_first (guarded : Guarded cancellable t) (first : events t = [.tripped]) :
    Protocol cancellable t (.error .scanCancelled) := by
  obtain ⟨tripped, still⟩ := tripped_first first
  have uncollected (c : Completion) : ⟨.collect, c⟩ ∉ t := fun there => by
    simpa [first] using collected_mem there
  exact
    { guarded
      started := by simp [first, Event.attempts]
      unstarted := fun _ => by simp [first, Event.attempts]
      cancelled_iff := iff_of_true ⟨_, rfl⟩ (.inl tripped)
      killed := fun h => absurd h still
      spared := fun _ => by simp [first]
      returns := fun c there => absurd there (uncollected c)
      returned_iff := fun c there => absurd there (uncollected c)
      refused := fun c there => absurd there (uncollected c)
      failed := fun _ _ _ there => by simpa [first] using unstarted_mem there
      ends := .inl tripped }

/-- A run whose process cannot be started keeps the protocol. -/
theorem protocol_of_unstarted {words : List String} {fault : Fault}
    (guarded : Guarded cancellable t) (mem : ⟨.start words root, .error fault⟩ ∈ t)
    (unstarted : events t = [.unstarted fault]) (system : fault.isSystem = true) :
    Protocol cancellable t (.error (startFault words fault)) := by
  obtain ⟨notFirst, notMeanwhile⟩ := untripped (t := t) (by simp [unstarted])
  have uncollected (c : Completion) : ⟨.collect, c⟩ ∉ t := fun there => by
    simpa [unstarted] using collected_mem there
  have message : startFault words fault = .failed (.tool none none)
      ("Unable to start mypy (" ++ words.headD "" ++ "): " ++ fault.message) (some fault) :=
    if_pos system
  exact
    { guarded
      started := by simp [unstarted, Event.attempts]
      unstarted := fun h => absurd h notFirst
      cancelled_iff := by
        refine iff_of_false ?_ (not_or.2 ⟨notFirst, notMeanwhile⟩)
        rintro ⟨_, cancelled⟩
        rw [message] at cancelled
        cases cancelled
      killed := fun h => absurd h notMeanwhile
      spared := fun _ => by simp [unstarted]
      returns := fun c there => absurd there (uncollected c)
      returned_iff := fun c there => absurd there (uncollected c)
      refused := fun c there => absurd there (uncollected c)
      failed := fun _ _ fault' there => by
        obtain rfl : fault' = fault := by simpa [unstarted] using unstarted_mem there
        exact ⟨_, congrArg Except.error message⟩
      ends := .inr (.inr (.inr ⟨words, root, fault, mem⟩)) }

/-- A run that is cancelled while the process runs keeps the protocol. -/
theorem protocol_of_meanwhile (guarded : Guarded cancellable t)
    (meanwhile : events t = [.started, .tripped, .killed]) :
    Protocol cancellable t (.error runCancelled) := by
  obtain ⟨notFirst, tripped⟩ := tripped_meanwhile meanwhile
  have uncollected (c : Completion) : ⟨.collect, c⟩ ∉ t := fun there => by
    simpa [meanwhile] using collected_mem there
  exact
    { guarded
      started := by
        rw [meanwhile]
        exact Nat.le_refl 1
      unstarted := fun h => absurd h notFirst
      cancelled_iff := iff_of_true ⟨_, rfl⟩ (.inr tripped)
      killed := fun _ => by simp [meanwhile]
      spared := fun h => absurd tripped h
      returns := fun c there => absurd there (uncollected c)
      returned_iff := fun c there => absurd there (uncollected c)
      refused := fun c there => absurd there (uncollected c)
      failed := fun _ _ _ there => by simpa [meanwhile] using unstarted_mem there
      ends := .inr (.inl tripped) }

/-- A run whose process ends keeps the protocol. -/
theorem protocol_of_collected {completion : Completion} (guarded : Guarded cancellable t)
    (collected : events t = [.started, .collected completion]) :
    Protocol cancellable t (result completion) := by
  obtain ⟨notFirst, notMeanwhile⟩ := untripped (t := t) (by simp [collected])
  obtain ⟨-, refused⟩ := result_spec completion
  have same {c : Completion} (there : ⟨.collect, c⟩ ∈ t) : c = completion := by
    simpa [collected] using collected_mem there
  have returns (done : Done completion) : ∃ ls, result completion = .ok ls := by
    obtain ⟨ls, printed⟩ := exists_printed completion.stdout
    exact ⟨ls, result_eq_ok_iff.2 ⟨done, printed⟩⟩
  exact
    { guarded
      started := by
        rw [collected]
        exact Nat.le_refl 1
      unstarted := fun h => absurd h notFirst
      cancelled_iff := by
        refine iff_of_false ?_ (not_or.2 ⟨notFirst, notMeanwhile⟩)
        rintro ⟨_, cancelled⟩
        by_cases done : Done completion
        · obtain ⟨ls, returned⟩ := returns done
          cases returned.symm.trans cancelled
        · obtain ⟨_, failed⟩ := refused done
          cases failed.symm.trans cancelled
      killed := fun h => absurd h notMeanwhile
      spared := fun _ => by simp [collected]
      returns := fun c there done => returns (same there ▸ done)
      returned_iff := fun c there ls => by
        rw [same there]
        exact result_eq_ok_iff
      refused := fun c there undone => by
        rw [same there] at undone ⊢
        exact refused undone
      failed := fun _ _ _ there => by simpa [collected] using unstarted_mem there
      ends := .inr (.inr (.inl ⟨completion, exists_collect (by simp [collected])⟩)) }

/-- A run of the tool keeps the protocol, whatever the process does and whenever the token trips:
for settings that can be cut into words, and if only the system fails to start processes. -/
theorem run_protocol {r : Except Fault (List String)} (splits : Splits settings)
    (systemic : ∀ words directory fault, ⟨.start words directory, .error fault⟩ ∈ t →
      fault.isSystem = true)
    (run : Runs (run settings root paths cancellable).attempt t r) :
    Protocol cancellable t r := by
  have guarded := guarded_run run
  obtain ⟨first, rfl⟩ | ⟨words, fault, mem, unstarted, rfl⟩ | ⟨meanwhile, rfl⟩ |
    ⟨completion, collected, rfl⟩ := events_run splits run
  · exact protocol_of_first guarded first
  · exact protocol_of_unstarted guarded mem unstarted (systemic _ _ _ mem)
  · exact protocol_of_meanwhile guarded meanwhile
  · exact protocol_of_collected guarded collected

/-- A token that trips at its third check, and a process that goes on for five waits. -/
def thirdCheck (checks : Nat) : (r : Request) → r.Reply × Nat
  | .isCancelled => (decide (2 ≤ checks), checks + 1)
  | .start _ _ => (.ok 5, checks)
  | r => (r.nothing, checks)

/-- What is asked while the token trips at its third check, and the result. -/
def killedRun : Trace × Except Fault (List String) × Nat :=
  record thirdCheck 0 (run .default "/p" ["/p/a.py"] true).attempt

/-- A tool that found an error which blocks it, and says so on the second line of its output. -/
def blocked : Completion where
  status := 2
  stdout := "checking\r\n/p/a.py:1: error: boom\n"
  stderr := "blocked"

/-- A process that goes on for one wait and ends so, under a token that does not trip. -/
def blocking : (r : Request) → r.Reply
  | .start _ _ => .ok 1
  | .collect => blocked
  | r => r.nothing

/-- What is asked of it, and the result. -/
def blockedRun : Trace × Except Fault (List String) :=
  answered blocking (run .default "/p" ["/p/a.py"] true).attempt

/-- In the first run the process is started, waited for once and killed; in the second one its
output is collected, and both lines of it are returned. -/
theorem killed_or_collected :
    (events killedRun.1 = [.started, .tripped, .killed] ∧
      Protocol true killedRun.1 killedRun.2.1) ∧
    events blockedRun.1 = [.started, .collected blocked] ∧
      blockedRun.2 = .ok ["checking", "/p/a.py:1: error: boom"] := by
  have splits : Splits .default := ⟨⟨["mypy"], by decide +kernel⟩, [], rfl⟩
  refine ⟨⟨by decide +kernel, run_protocol splits ?_ (runs_record _ _ _)⟩, by decide +kernel, ?_⟩
  · intro words directory fault there
    obtain ⟨checks, answer⟩ := replies_record _ _ _ _ there
    cases answer
  · have protocol : Protocol true blockedRun.1 blockedRun.2 := by
      refine run_protocol splits ?_ (runs_answered _ _)
      intro words directory fault there
      obtain ⟨-, answer⟩ := replies_record (fun (_ : Unit) r => (blocking r, ())) () _ _ there
      cases answer
    have printed : Printed blocked.stdout ["checking", "/p/a.py:1: error: boom"] :=
      lines_eq_iff.1 (by decide +kernel)
    have done : Done blocked :=
      .inr (.inr ⟨rfl, .inl ⟨_, printed, _, List.mem_cons_of_mem _ List.mem_cons_self,
        by decide +kernel⟩⟩)
    exact (protocol.returned_iff blocked (exists_collect (by decide +kernel)) _).2 ⟨done, printed⟩

end Tool

end LiveCheck
