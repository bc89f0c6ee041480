import LiveCheck.CommandLine.Run
import LiveCheck.Proofs.Scan.Calls

/-!
# What the command line keeps to itself

The command line runs its scan as a program that shows nothing and has no listeners; what would be
shown is kept, and so is the outcome.  Such a run is a run of the scan in which nobody is
registered, with the requests that are kept left out of its trace (`exists_runs_of_recording`).
A scan concludes once, unless a fault leaves it (`Scan.outcomes_run`), so the outcome that is kept
is the one of the scan.  `runs_scanWith` puts both together: without a directory there is no scan,
and with one the run ends as the report and the outcome of a scan say.
-/

namespace LiveCheck

open Program

/-- Does the command line hand the request on? -/
def Program.Exchange.isOpen : Exchange → Bool
  | ⟨.present _ _ _, _⟩ | ⟨.listeners, _⟩ => false
  | _ => true

/-- The outcome with which the exchange concludes. -/
def Program.Exchange.outcome? : Exchange → Option Outcome
  | ⟨.conclude outcome, _⟩ => some outcome
  | _ => none

namespace Trace

/-- What is handed on of a trace. -/
def opened (t : Trace) : Trace := t.filter Exchange.isOpen

/-- The outcomes with which a trace concludes. -/
def outcomes (t : Trace) : List Outcome := t.filterMap Exchange.outcome?

variable {t t' : Trace} {outcome : Outcome}

/-- The outcomes of a trace are those of its parts. -/
@[simp] theorem outcomes_append : outcomes (t ++ t') = outcomes t ++ outcomes t' :=
  List.filterMap_append

/-- A trace concludes with its outcomes. -/
theorem mem_outcomes : outcome ∈ outcomes t ↔ ⟨.conclude outcome, ()⟩ ∈ t := by
  constructor
  · intro mem
    obtain ⟨⟨r, reply⟩, there, same⟩ := List.mem_filterMap.1 mem
    cases r with
    | conclude =>
      cases same
      exact there
    | _ => cases same
  · exact fun there => List.mem_filterMap.2 ⟨_, there, rfl⟩

/-- Nothing is concluded where nothing is asked about calls. -/
theorem About.outcomes_eq_nil {cs : List Concern} (about : About cs t)
    (other : Concern.call ∉ cs) : outcomes t = [] := by
  refine List.filterMap_eq_nil_iff.2 fun ⟨r, reply⟩ he => ?_
  have concern : r.concern ∈ cs := about _ he
  cases r with
  | conclude => exact absurd concern other
  | _ => rfl

/-- What only requests tell that are handed on is told by what is handed on. -/
theorem filterMap_opened {α : Type} {f : Exchange → Option α}
    (silent : ∀ e : Exchange, e.isOpen = false → f e = none) (t : Trace) :
    (opened t).filterMap f = t.filterMap f := by
  unfold opened
  rw [List.filterMap_filter]
  refine congrArg (t.filterMap ·) (funext fun e => ?_)
  cases handed : e.isOpen with
  | true => exact if_pos rfl
  | false => exact (if_neg Bool.false_ne_true).trans (silent e handed).symm

/-- A request that is handed on is one of the requests that are. -/
theorem mem_opened {e : Exchange} : e ∈ opened t ↔ e ∈ t ∧ e.isOpen = true := List.mem_filter

/-- Conclusions are handed on. -/
@[simp] theorem outcomes_opened (t : Trace) : outcomes (opened t) = outcomes t := by
  refine filterMap_opened (fun ⟨r, reply⟩ kept => ?_) t
  cases r with
  | conclude => cases kept
  | _ => rfl

end Trace

open Trace

/-- A scan concludes with its outcome and returns the report of it, unless a fault leaves it. -/
theorem Scan.outcomes_run {scan : Scan} {t : Trace} {r : Except Fault Report}
    (run : Runs scan.run t r) :
    outcomes t = [] ∧ (∃ fault, r = .error fault) ∨
      ∃ (outcome : Outcome) (told : Except Fault Unit), outcomes t = [outcome] ∧
        r = told.map fun _ => outcome.report := by
  obtain ⟨id, t₁, ⟨fault, obtained, rfl, rfl⟩ |
    ⟨outcome, t₂, told, obtained, announced, rfl, rfl⟩⟩ := Scan.runs_run run
  all_goals
    have first := (obtained.about (obtain_asks scan id)).outcomes_eq_nil (by decide)
  · refine .inl ⟨?_, fault, rfl⟩
    change outcomes (t₁ ++ _) = []
    rw [outcomes_append, first]
    rfl
  · have last := (announced.about (announce_asks outcome)).outcomes_eq_nil (by decide)
    refine .inr ⟨outcome, told, ?_, rfl⟩
    change outcomes (t₁ ++ _) = _
    rw [outcomes_append, first]
    change outcome :: outcomes (t₂ ++ _) = _
    rw [outcomes_append, last]
    rfl

namespace CommandLine

/-- What a program does that keeps to itself what it would show is a run of the program, in which
nobody is registered; what is kept is missing from the trace, and the last conclusion is the
outcome. -/
theorem exists_runs_of_recording {α : Type} {p : Program α} {t : Trace} {a : α} {record : Record}
    (run : Runs (recording p) t (a, record)) :
    ∃ t', Runs p t' a ∧ t = opened t' ∧ record.outcome = (outcomes t').getLast? ∧
      ∀ ls, ⟨.listeners, ls⟩ ∈ t' → ls = [] := by
  induction p generalizing t record with
  | done a =>
    obtain ⟨rfl, same⟩ := runs_done.1 run
    cases same
    exact ⟨[], .done _, rfl, rfl, nofun⟩
  | ask r next ih =>
    cases r with
    | present title message error =>
      obtain ⟨_, _, _, rfl, rest, last⟩ := runs_bind.1 run
      obtain ⟨rfl, same⟩ := runs_pure.1 last
      cases same
      obtain ⟨t', run', rfl, outcome, nobody⟩ := ih _ rest
      exact ⟨_, .ask (r := .present title message error) (.ok ()) run', List.append_nil _, outcome,
        by simpa using nobody⟩
    | conclude outcome =>
      obtain ⟨reply, _, rfl, concluded⟩ := runs_ask.1 run
      obtain ⟨_, _, _, rfl, rest, last⟩ := runs_bind.1 concluded
      obtain ⟨rfl, same⟩ := runs_pure.1 last
      cases same
      obtain ⟨t', run', rfl, later, nobody⟩ := ih _ rest
      refine ⟨_, .ask reply run', by rw [List.append_nil]; rfl, ?_, by simpa using nobody⟩
      -- a later conclusion takes the place of this one
      dsimp only
      rw [later]
      exact List.getLast?_cons.symm
    | listeners =>
      obtain ⟨t', run', rfl, outcome, nobody⟩ := ih _ run
      exact ⟨_, .ask [] run', rfl, outcome, by simpa using nobody⟩
    | _ =>
      obtain ⟨reply, _, rfl, rest⟩ := runs_ask.1 run
      obtain ⟨t', run', rfl, outcome, nobody⟩ := ih _ rest
      exact ⟨_, .ask reply run', rfl, outcome, by simpa using nobody⟩

/-- The command line ends because there is no directory, or with the outcome and the report of its
scan, in which nobody is registered. -/
theorem runs_scanWith {arguments : Arguments} {settings : Settings} {cwd : String} {t : Trace}
    {finish : Finish} (run : Runs (scanWith arguments settings cwd).attempt t (.ok finish)) :
    t = [⟨.isDirectory (arguments.project.getD cwd), .ok false⟩] ∧ finish.status = 2 ∧
        finish.stdout = "" ∨
      ∃ (t' : Trace) (outcome : Outcome) (record : Record),
        t = ⟨.isDirectory (arguments.project.getD cwd), .ok true⟩ :: opened t' ∧
        Runs (arguments.scan settings cwd (arguments.project.getD cwd)).run t'
          (.ok outcome.report) ∧
        outcomes t' = [outcome] ∧ record.outcome = some outcome ∧
        finish = CommandLine.finish outcome.report record ∧
        ∀ ls, ⟨.listeners, ls⟩ ∈ t' → ls = [] := by
  unfold scanWith at run
  obtain ⟨_, _, isDirectory, rfl, ask, rest⟩ := runs_attempt_bind_ok.1 run
  obtain rfl := runs_request.1 (runs_attempt_ofProgram.1 ask)
  cases isDirectory with
  | false =>
    obtain ⟨rfl, same⟩ := runs_attempt_pure.1 rest
    cases same
    exact .inl ⟨rfl, rfl, rfl⟩
  | true =>
    obtain ⟨_, _, ⟨r, record⟩, rfl, recorded, ending⟩ := runs_attempt_ofTotal_bind.1 rest
    obtain ⟨t', run', rfl, recordedOutcome, nobody⟩ := exists_runs_of_recording recorded
    obtain ⟨_, _, report, rfl, returned, last⟩ := runs_attempt_bind_ok.1 ending
    obtain ⟨rfl, rfl⟩ := runs_attempt_ofExcept.1 returned
    obtain ⟨rfl, same⟩ := runs_attempt_pure.1 last
    cases same
    obtain ⟨-, fault, failed⟩ | ⟨outcome, told, concluded, returned⟩ := Scan.outcomes_run run'
    · cases failed
    · cases told with
      | error fault => cases returned
      | ok _ =>
        cases returned
        refine .inr ⟨t', outcome, record, by simp, run', concluded, ?_, rfl, nobody⟩
        rw [recordedOutcome, concluded]
        rfl

end CommandLine

end LiveCheck
