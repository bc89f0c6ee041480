import LiveCheck.Proofs.Observed
import LiveCheck.Proofs.Scan.Course

/-!
# Who hears of a scan

The listeners of a scan are told one after the other, in the order of the registry.  A listener
that fails does not keep the others from being told, unless its fault is one that leaves the scan;
so those who are told are always the first of the registry, and all of them if the telling does
not end with a fault.  `runs_tellStart` and `runs_tellEnd` say so for the two events,
`sights_start` and `runs_announce` for the stages in which they occur; `runs_start` says what else
a start may be.
-/

namespace LiveCheck

/-- What listeners are told of an outcome. -/
def Outcome.ending : Outcome → Ending
  | .failed _ error => .failed error
  | outcome => .completed outcome.report

/-- The phase in which an outcome is told. -/
def Outcome.phase : Outcome → Phase
  | .success _ => .notifyingSuccess
  | .cancelled _ => .notifyingCancelled
  | .failed _ _ => .notifyingFailure

/-- Of the copying of the list of listeners it is seen who they are. -/
@[simp] theorem Trace.sights_registering (ls : List Listener) :
    sights (registering ls) = [.registered ls] := rfl

namespace Scan

open Program Trace

/-- The listeners that are registered when a scan starts, and those that are told, each with the
files that it gets. -/
structure Opening where
  registered : List Listener
  started : List (Listener × List Handle)
  first : started.map Prod.fst <+: registered

/-- The listeners that are registered when a scan ends, and those that are told. -/
structure Hearing where
  registered : List Listener
  told : List Listener
  first : told <+: registered

/-- An outcome and who hears of it, if anybody is asked for. -/
structure Closing where
  outcome : Outcome
  hearing : Option Hearing

/-- What is seen of the start. -/
def Opening.sights (o : Opening) : List Sight :=
  .registered o.registered :: o.started.map fun e => .started e.1 e.2

/-- What is seen of the end where listeners hear of it. -/
def Hearing.sights (ending : Ending) (h : Hearing) : List Sight :=
  .registered h.registered :: h.told.map fun l => .ended l ending

/-- What is seen of the telling of an outcome: its phase, the fault of a failure, and what the
listeners are told. -/
def Closing.sights (e : Closing) : List Sight :=
  .entered e.outcome.phase :: (e.outcome.error?.toList.map (fun error => .shown (some error)) ++
    e.hearing.elim [] (Hearing.sights e.outcome.ending))

/-- How the telling of an outcome ends.  All who are registered are told; or the display ends the
program and nobody is asked for; or the last of those who are told has a fault that leaves the
scan. -/
inductive Closing.Ends (e : Closing) (t : Trace) : Except Fault Unit → Prop where
  | all {h : Hearing} (hearing : e.hearing = some h) (all : h.told = h.registered) :
      Ends e t (.ok ())
  | unshown {error fault : Fault} {title text : String} (hearing : e.hearing = none)
      (failed : e.outcome.error? = some error)
      (display : ⟨.present title text (some error), .error fault⟩ ∈ t)
      (fatal : fault.isFatal = true) : Ends e t (.error fault)
  | cut {h : Hearing} {l : Listener} {fault : Fault} (hearing : e.hearing = some h)
      (last : h.told.getLast? = some l) (reply : ⟨.tellEnd l e.outcome.ending, .error fault⟩ ∈ t)
      (leaves : fault.leaves = true) : Ends e t (.error fault)

/-- What happened at a later point of a trace happened in it. -/
theorem Closing.Ends.append_left {e : Closing} {t : Trace} {r : Except Fault Unit}
    (h : e.Ends t r) (before : Trace) : e.Ends (before ++ t) r := by
  cases h with
  | all hearing all => exact .all hearing all
  | unshown hearing failed display fatal =>
    exact .unshown hearing failed (List.mem_append_right _ display) fatal
  | cut hearing last reply leaves =>
    exact .cut hearing last (List.mem_append_right _ reply) leaves

/-! ### One listener after the other -/

/-- The fault of a listener is noted in the log, or it leaves the scan. -/
theorem runs_settle {listener : Listener} {event : Event} {reply : Except Fault Unit}
    {t : Trace} {r : Except Fault Unit} (run : Runs (settle listener event reply).attempt t r) :
    sights t = [] ∧ (r = .ok () ∨ ∃ fault, reply = .error fault ∧ r = .error fault ∧
      fault.leaves = true) := by
  unfold settle at run
  match reply with
  | .ok () =>
    obtain ⟨rfl, rfl⟩ := runs_attempt_pure.1 run
    exact ⟨rfl, Or.inl rfl⟩
  | .error fault =>
    dsimp only at run
    split at run
    · next leaves =>
      obtain ⟨rfl, rfl⟩ := runs_attempt_throw.1 run
      exact ⟨rfl, Or.inr ⟨fault, rfl, rfl, leaves⟩⟩
    · obtain ⟨_, rfl, log⟩ := runs_attempt_ofTotal.1 run
      exact ⟨(log.about (logLine_asks _ _ _)).sights_eq_nil (by simp), Or.inl rfl⟩

/-- The listeners that are told of the start are the first of the registry, and all of them
unless a fault leaves the scan. -/
theorem runs_tellStart {files : List Handle} {ls : List Listener} {t : Trace}
    {r : Except Fault Unit} (run : Runs (tellStart files ls).attempt t r) :
    ∃ told : List (Listener × List Handle), told.map Prod.fst <+: ls ∧
      sights t = told.map (fun e => .started e.1 e.2) ∧
      (r = .ok () ∧ told.map Prod.fst = ls ∨ ∃ fault, r = .error fault ∧ fault.leaves = true) := by
  induction ls generalizing files t with
  | nil =>
    obtain ⟨rfl, rfl⟩ := runs_attempt_pure.1 run
    exact ⟨[], List.nil_prefix, rfl, Or.inl ⟨rfl, rfl⟩⟩
  | cons l rest ih =>
    unfold tellStart at run
    obtain ⟨_, t₂, ⟨left, reply⟩, rfl, tell, settling⟩ := runs_attempt_ofTotal_bind.1 run
    cases runs_request.1 tell
    dsimp only at settling
    rcases runs_attempt_bind.1 settling with
      ⟨t₃, t₄, _, rfl, settled, others⟩ | ⟨fault, rfl, failed⟩
    · obtain ⟨told, first, seen, ending⟩ := ih others
      refine ⟨(l, files) :: told, ?_, ?_, ?_⟩
      · simpa using first
      · simp [(runs_settle settled).1, seen, Exchange.sight?]
      · simpa using ending
    · obtain ⟨quiet, h | ⟨_, rfl, h, leaves⟩⟩ := runs_settle failed
      · cases h
      · cases h
        exact ⟨[(l, files)], by simp, by simp [quiet, Exchange.sight?], Or.inr ⟨fault, rfl, leaves⟩⟩

/-- The listeners that are told of the end are the first of the registry, and all of them unless
the last of them has a fault that leaves the scan. -/
theorem runs_tellEnd {ending : Ending} {ls : List Listener} {t : Trace} {r : Except Fault Unit}
    (run : Runs (tellEnd ending ls).attempt t r) :
    ∃ told, told <+: ls ∧ sights t = told.map (fun l => .ended l ending) ∧
      (r = .ok () ∧ told = ls ∨ ∃ fault l, r = .error fault ∧ fault.leaves = true ∧
        told.getLast? = some l ∧ ⟨.tellEnd l ending, .error fault⟩ ∈ t) := by
  induction ls generalizing t with
  | nil =>
    obtain ⟨rfl, rfl⟩ := runs_attempt_pure.1 run
    exact ⟨[], List.nil_prefix, rfl, Or.inl ⟨rfl, rfl⟩⟩
  | cons l rest ih =>
    unfold tellEnd at run
    obtain ⟨_, t₂, reply, rfl, tell, settling⟩ := runs_attempt_ofTotal_bind.1 run
    cases runs_request.1 tell
    rcases runs_attempt_bind.1 settling with
      ⟨t₃, t₄, _, rfl, settled, others⟩ | ⟨fault, rfl, failed⟩
    · obtain ⟨told, first, seen, done⟩ := ih others
      refine ⟨l :: told, ?_, ?_, ?_⟩
      · simpa using first
      · simp [(runs_settle settled).1, seen, Exchange.sight?]
      · rcases done with ⟨rfl, rfl⟩ | ⟨fault, last, rfl, leaves, hlast, hmem⟩
        · exact Or.inl ⟨rfl, rfl⟩
        · refine Or.inr ⟨fault, last, rfl, leaves, ?_, by simp [hmem]⟩
          rw [List.getLast?_cons, hlast]
          rfl
    · obtain ⟨quiet, h | ⟨_, rfl, h, leaves⟩⟩ := runs_settle failed
      · cases h
      · cases h
        exact ⟨[l], by simp, by simp [quiet, Exchange.sight?],
          Or.inr ⟨fault, l, rfl, leaves, rfl, by simp⟩⟩

/-! ### The stages in which listeners are told -/

/-- To enter a phase shows that alone. -/
theorem runs_enter_bind {α : Type} {phase : Phase} {a : Action α} {t : Trace} {r : Except Fault α} :
    Runs (do enter phase; a : Action α).attempt t r ↔
      ∃ t', t = ⟨.enter phase, ()⟩ :: t' ∧ Runs a.attempt t' r := by
  unfold enter
  rw [runs_attempt_ofTotal_bind]
  constructor
  · rintro ⟨_, t', _, rfl, h, run⟩
    cases runs_request.1 h
    exact ⟨t', rfl, run⟩
  · rintro ⟨t', rfl, run⟩
    exact ⟨[_], t', (), rfl, runs_request.2 rfl, run⟩

/-- A check that does not fail has found that the scan is not cancelled. -/
theorem runs_checkCancelled_ok {t : Trace} {u : Unit}
    (run : Runs (checkCancelled true).attempt t (.ok u)) : t = [⟨.isCancelled, false⟩] := by
  unfold checkCancelled at run
  rw [if_pos rfl] at run
  obtain ⟨_, t₂, stop, rfl, ask, rest⟩ := runs_attempt_ofTotal_bind.1 run
  cases runs_request.1 ask
  cases stop with
  | true =>
    obtain ⟨-, thrown⟩ := runs_attempt_throw.1 rest
    cases thrown
  | false =>
    obtain ⟨rfl, -⟩ := runs_attempt_pure.1 rest
    rfl

/-- What a scan has asked for when it begins to search for its files. -/
def opened : Trace := [⟨.enter .discovering, ()⟩, ⟨.isCancelled, false⟩]

/-- A scan that starts fails before it asks for listeners, or it resolves its files and tells these
to the listeners of the registry. -/
theorem runs_start {scan : Scan} {t : Trace} {r : Except Fault (List Handle)}
    (run : Runs scan.start.attempt t r) :
    (∃ fault t', r = .error fault ∧ t = ⟨.enter .discovering, ()⟩ :: t' ∧
      About [.tree, .token, .choice] t') ∨
    ∃ search files registered telling ending,
      t = opened ++ (search ++ (registering registered ++ telling)) ∧
      Runs scan.resolveFiles.attempt search (.ok files) ∧
      Runs (tellStart files registered).attempt telling ending ∧
      r = ending.map fun _ => files := by
  unfold start at run
  obtain ⟨t₁, rfl, checking⟩ := runs_enter_bind.1 run
  rcases runs_attempt_bind.1 checking with
    ⟨t₂, t₃, _, rfl, check, resolving⟩ | ⟨fault, rfl, check⟩
  swap
  · exact Or.inl ⟨fault, t₁, rfl, rfl, check.about ((checkCancelled_asks _).about rfl)⟩
  cases runs_checkCancelled_ok check
  rcases runs_attempt_bind.1 resolving with
    ⟨search, t₄, files, rfl, resolve, reading⟩ | ⟨fault, rfl, resolve⟩
  swap
  · refine Or.inl ⟨fault, _, rfl, rfl, List.forall_mem_cons.2 ⟨by decide, ?_⟩⟩
    exact resolve.about (resolveFiles_asks _)
  obtain ⟨_, t₅, registered, rfl, registry, telling⟩ := runs_attempt_ofTotal_bind.1 reading
  cases runs_registered.1 registry
  rcases runs_attempt_bind.1 telling with ⟨t₆, t₇, _, rfl, tell, last⟩ | ⟨fault, rfl, tell⟩
  · obtain ⟨rfl, rfl⟩ := runs_attempt_pure.1 last
    exact Or.inr ⟨search, files, registered, t₆, _, by simp [opened], resolve, tell, rfl⟩
  · exact Or.inr ⟨search, files, registered, t₅, _, rfl, resolve, tell, rfl⟩

/-- A scan that starts enters its first phase and tells listeners of the registry, if it comes so
far; it tells all of them if it knows its files. -/
theorem sights_start {scan : Scan} {t : Trace} {r : Except Fault (List Handle)}
    (run : Runs scan.start.attempt t r) :
    ∃ opening : Option Opening,
      sights t = .entered .discovering :: opening.elim [] Opening.sights ∧
      ∀ files, r = .ok files →
        ∃ o, opening = some o ∧ o.started.map Prod.fst = o.registered := by
  rcases runs_start run with ⟨fault, t', rfl, rfl, about⟩ |
    ⟨search, files, ls, telling, ending, rfl, resolve, tell, rfl⟩
  · have quiet := about.sights_eq_nil (by simp)
    exact ⟨none, by simp [quiet, Exchange.sight?], by simp⟩
  · have quiet := (resolve.about (resolveFiles_asks _)).sights_eq_nil (by simp)
    obtain ⟨told, first, seen, done⟩ := runs_tellStart tell
    refine ⟨some ⟨ls, told, first⟩, ?_, fun _ h => ⟨_, rfl, ?_⟩⟩
    · simp [opened, quiet, seen, Exchange.sight?, Opening.sights]
    · rcases done with ⟨_, all⟩ | ⟨_, rfl, _⟩
      · exact all
      · cases h

/-- The user is shown a fault, and only a fault of the display that ends the program goes on. -/
theorem runs_ofFault {error : Fault} {t : Trace} {r : Except Fault Unit}
    (run : Runs (Notification.ofFault error).attempt t r) :
    sights t = [.shown (some error)] ∧
      (r = .ok () ∨ ∃ fault, r = .error fault ∧ fault.isFatal = true ∧
        ∃ title text, ⟨.present title text (some error), .error fault⟩ ∈ t) := by
  unfold Notification.ofFault Notification.show_ at run
  obtain ⟨_, t₂, reply, rfl, present, rest⟩ := runs_attempt_ofTotal_bind.1 run
  cases runs_request.1 present
  match reply with
  | .ok () =>
    obtain ⟨rfl, rfl⟩ := runs_attempt_pure.1 rest
    exact ⟨rfl, Or.inl rfl⟩
  | .error fault =>
    dsimp only at rest
    split at rest
    · next fatal =>
      obtain ⟨rfl, rfl⟩ := runs_attempt_throw.1 rest
      exact ⟨rfl, Or.inr ⟨fault, rfl, fatal, _, _, List.mem_cons_self⟩⟩
    · obtain ⟨_, rfl, log⟩ := runs_attempt_ofTotal.1 rest
      have quiet := (log.about (logLine_asks _ _ _)).sights_eq_nil (by simp)
      exact ⟨by simp [quiet, Exchange.sight?], Or.inl rfl⟩

/-- To tell the listeners that are registered. -/
theorem runs_tellEnd_listeners (outcome : Outcome) {t : Trace} {r : Except Fault Unit}
    (run : Runs (do tellEnd outcome.ending (← listeners) : Action Unit).attempt t r) :
    ∃ h : Hearing, (Closing.mk outcome (some h)).Ends t r ∧
      sights t = h.sights outcome.ending := by
  obtain ⟨_, t₂, registered, rfl, registry, telling⟩ := runs_attempt_ofTotal_bind.1 run
  cases runs_registered.1 registry
  obtain ⟨told, first, seen, done⟩ := runs_tellEnd telling
  refine ⟨⟨registered, told, first⟩, ?_, by simp [seen, Hearing.sights]⟩
  rcases done with ⟨rfl, rfl⟩ | ⟨fault, l, rfl, leaves, last, hmem⟩
  · exact .all rfl rfl
  · exact .cut rfl last (List.mem_append_right _ hmem) leaves

/-- A scan that tells its outcome enters the phase of the outcome, shows the fault of a failure,
and tells the listeners. -/
theorem runs_announce {outcome : Outcome} {t : Trace} {r : Except Fault Unit}
    (run : Runs (announce outcome).attempt t r) :
    ∃ hearing, (Closing.mk outcome hearing).Ends t r ∧
      sights t = (Closing.mk outcome hearing).sights := by
  cases outcome with
  | failed id error =>
    obtain ⟨t₁, rfl, logging⟩ := runs_enter_bind.1 run
    obtain ⟨t₂, t₃, _, rfl, log, showing⟩ := runs_attempt_ofTotal_bind.1 logging
    have quiet := (log.about (logLine_asks _ _ _)).sights_eq_nil (by simp)
    rcases runs_attempt_bind.1 showing with
      ⟨t₄, t₅, _, rfl, display, telling⟩ | ⟨fault, rfl, display⟩
    · obtain ⟨h, ends, seen⟩ := runs_tellEnd_listeners (.failed id error) telling
      refine ⟨some h, ((ends.append_left t₄).append_left t₂).append_left [_], ?_⟩
      simp [quiet, seen, (runs_ofFault display).1, Exchange.sight?, Closing.sights, Outcome.phase,
        Outcome.error?]
    · obtain ⟨seen, h | ⟨_, h, fatal, title, text, hmem⟩⟩ := runs_ofFault display
      · cases h
      · cases h
        refine ⟨none, ?_, ?_⟩
        · refine .unshown rfl rfl (List.mem_cons_of_mem _ (List.mem_append_right _ hmem)) fatal
        · simp [quiet, seen, Exchange.sight?, Closing.sights, Outcome.phase, Outcome.error?]
  | cancelled id =>
    obtain ⟨t₁, rfl, telling⟩ := runs_enter_bind.1 run
    obtain ⟨h, ends, seen⟩ := runs_tellEnd_listeners (.cancelled id) telling
    exact ⟨some h, ends.append_left [_],
      by simp [seen, Exchange.sight?, Closing.sights, Outcome.phase, Outcome.error?]⟩
  | success report =>
    obtain ⟨t₁, rfl, telling⟩ := runs_enter_bind.1 run
    obtain ⟨h, ends, seen⟩ := runs_tellEnd_listeners (.success report) telling
    exact ⟨some h, ends.append_left [_],
      by simp [seen, Exchange.sight?, Closing.sights, Outcome.phase, Outcome.error?]⟩

end Scan

end LiveCheck
