import LiveCheck.Proofs.Scan.Refusals

/-!
# The protocol of the tool

The tool is started once, asked for again and again while the token of the scan is asked in turn,
and then either killed or read to its end.  Of a run only a few exchanges matter for this: a check
that finds the token tripped, a start, a start that fails, a kill, and the output when it is
collected.  These are the events of a trace, and `events_run` lists what they can be: at most three,
in four orders.  With `guarded_run`, which says that the token is asked right before the start and
before each wait, these lists hold everything that is to be known of the order of things.

Each part of a run is taken apart once: the command (`runs_command`), the run around it
(`runs_run`), and the waiting, by induction over the waits.
-/

namespace LiveCheck

open Program

namespace Tool

/-! ### Events -/

/-- Something that decides how a run of the tool goes. -/
inductive Event where
  /-- A check finds the token tripped. -/
  | tripped
  /-- A process is started. -/
  | started
  /-- A process cannot be started. -/
  | unstarted (fault : Fault)
  /-- The process is killed. -/
  | killed
  /-- The process has ended, and this is its output. -/
  | collected (completion : Completion)
deriving DecidableEq

/-- The event of an exchange. -/
def event? : Exchange → Option Event
  | ⟨.isCancelled, true⟩ => some .tripped
  | ⟨.start _ _, .ok _⟩ => some .started
  | ⟨.start _ _, .error fault⟩ => some (.unstarted fault)
  | ⟨.kill, _⟩ => some .killed
  | ⟨.collect, completion⟩ => some (.collected completion)
  | _ => none

/-- The events of a trace, in order. -/
def events (t : Trace) : List Event := t.filterMap event?

/-- Is an attempt to start a process made? -/
def Event.attempts : Event → Bool
  | started | unstarted _ => true
  | _ => false

/-- Is the output collected? -/
def Event.collects : Event → Bool
  | collected _ => true
  | _ => false

variable {t t' : Trace} {cancellable : Bool}

/-- The events of a trace are those of its parts. -/
@[simp] theorem events_append : events (t ++ t') = events t ++ events t' := List.filterMap_append

/-- A search for the configuration file is no event. -/
theorem events_of_looks (looks : ∀ e ∈ t, Looks e.request) : events t = [] := by
  refine List.filterMap_eq_nil_iff.2 fun ⟨r, reply⟩ he => ?_
  have look : Looks r := looks _ he
  cases r with
  | isFile | log => rfl
  | _ => exact look.elim

/-! ### Checks -/

/-- The check of a token that has not tripped, if there is a token. -/
def clear (cancellable : Bool) : Trace := if cancellable then [⟨.isCancelled, false⟩] else []

/-- A token that has not tripped is no event. -/
@[simp] theorem events_clear : events (clear cancellable) = [] := by
  cases cancellable <;> rfl

/-- The request waits for a process or starts one. -/
def Acts : Request → Prop
  | .start _ _ | .wait | .collect => True
  | _ => False

/-- Right before a process is started or waited for, the token has not tripped. -/
def Guarded (cancellable : Bool) (t : Trace) : Prop :=
  ∀ before e after, t = before ++ e :: after → Acts e.request → clear cancellable <:+ before

/-- Two guarded parts make a guarded trace. -/
theorem Guarded.append (first : Guarded cancellable t) (second : Guarded cancellable t') :
    Guarded cancellable (t ++ t') := by
  intro before e after split acts
  obtain ⟨more, rfl, later⟩ | ⟨more, earlier, rest⟩ := List.append_eq_append_iff.1 split
  · exact (second more e after later acts).trans (List.suffix_append t more)
  · cases more with
    | nil =>
      rw [List.append_nil] at earlier
      have suffix := second [] e after rest.symm acts
      rw [List.suffix_nil] at suffix
      rw [suffix]
      exact List.nil_suffix
    | cons e' more =>
      obtain ⟨rfl, -⟩ := List.cons.inj rest
      exact first before e more earlier acts

/-- Where nothing is started and nothing waited for, nothing has to be checked. -/
theorem guarded_of_quiet (quiet : ∀ e ∈ t, ¬ Acts e.request) : Guarded cancellable t := by
  rintro before e after rfl acts
  exact absurd acts (quiet e (by simp))

/-- A search for the configuration file starts nothing and waits for nothing. -/
theorem not_acts_of_looks {r : Request} (looks : Looks r) : ¬ Acts r := by
  cases r with
  | isFile | log => exact id
  | _ => exact looks.elim

/-- A check guards what comes right behind it. -/
theorem guarded_clear (e : Exchange) : Guarded cancellable (clear cancellable ++ [e]) := by
  intro before e' after split acts
  cases cancellable with
  | false => exact List.nil_suffix
  | true =>
    cases before with
    | nil =>
      obtain ⟨rfl, -⟩ := List.cons.inj split
      exact acts.elim
    | cons first before =>
      obtain ⟨rfl, behind⟩ := List.cons.inj split
      have last : before = [] := by
        cases before with
        | nil => rfl
        | cons _ before => simp at behind
      rw [last]
      exact List.suffix_refl _

/-- A check of the token goes well, or it finds it tripped. -/
theorem runs_check {r : Except Fault Unit} (run : Runs (checkCancelled cancellable).attempt t r) :
    t = clear cancellable ∧ r = .ok () ∨
      cancellable = true ∧ t = [⟨.isCancelled, true⟩] ∧ r = .error .scanCancelled := by
  cases r with
  | ok =>
    left
    cases cancellable with
    | false => exact ⟨(runs_attempt_pure.1 run).1, rfl⟩
    | true => exact ⟨Scan.runs_checkCancelled_ok run, rfl⟩
  | error fault =>
    obtain ⟨rfl, tripped⟩ := Snapshot.runs_checkCancelled_error run
    cases cancellable with
    | false => exact nomatch (runs_attempt_pure.1 run).2
    | true => exact .inr ⟨rfl, tripped, rfl⟩

/-- The fault of a run that is cancelled while the process runs. -/
def runCancelled : Fault := .cancelled "mypy run cancelled"

/-- The process is killed, and a process that does not end is noted. -/
theorem runs_killCancelled {r : Except Fault Completion}
    (run : Runs killCancelled.attempt t r) :
    ∃ stuck log, t = ⟨.kill, stuck⟩ :: log ∧ (∀ e ∈ log, Looks e.request) ∧
      r = .error runCancelled := by
  unfold killCancelled at run
  obtain ⟨_, rest, stuck, rfl, kill, further⟩ := runs_attempt_ofTotal_bind.1 run
  cases runs_request.1 kill
  cases stuck with
  | none =>
    obtain ⟨rfl, rfl⟩ := runs_attempt_throw.1 further
    exact ⟨none, [], rfl, nofun, rfl⟩
  | some number =>
    obtain ⟨log, _, _, rfl, noted, last⟩ := runs_attempt_ofTotal_bind.1 further
    obtain ⟨rfl, rfl⟩ := runs_attempt_throw.1 last
    refine ⟨some number, log, by rw [List.append_nil]; rfl, ?_, rfl⟩
    exact noted.asksOnly (asksOnly_request trivial)

/-- A check before the process is waited for goes well, or the process is killed. -/
theorem runs_unlessCancelled {next : Action Completion} {r : Except Fault Completion}
    (run : Runs (unlessCancelled cancellable next).attempt t r) :
    (∃ rest, t = clear cancellable ++ rest ∧ Runs next.attempt rest r) ∨
      ∃ stuck log, t = ⟨.isCancelled, true⟩ :: ⟨.kill, stuck⟩ :: log ∧
        (∀ e ∈ log, Looks e.request) ∧ r = .error runCancelled := by
  unfold unlessCancelled at run
  cases cancellable with
  | false => exact .inl ⟨t, rfl, run⟩
  | true =>
    rw [if_pos rfl] at run
    obtain ⟨_, rest, stop, rfl, ask, further⟩ := runs_attempt_ofTotal_bind.1 run
    cases runs_request.1 ask
    cases stop with
    | false => exact .inl ⟨rest, rfl, further⟩
    | true =>
      obtain ⟨stuck, log, rfl, noted, failed⟩ := runs_killCancelled further
      exact .inr ⟨stuck, log, rfl, noted, failed⟩

/-! ### Waiting for the process -/

/-- The process is killed after a check that finds the token tripped, or it is read to its end. -/
theorem events_await {waits : Nat} {r : Except Fault Completion}
    (run : Runs (await cancellable waits).attempt t r) :
    (∃ completion, events t = [.collected completion] ∧ r = .ok completion) ∨
      events t = [.tripped, .killed] ∧ r = .error runCancelled := by
  have killed {stuck : Option Nat} {log : Trace} (noted : ∀ e ∈ log, Looks e.request) :
      events (⟨.isCancelled, true⟩ :: ⟨.kill, stuck⟩ :: log) = [.tripped, .killed] := by
    change Event.tripped :: Event.killed :: events log = _
    rw [events_of_looks noted]
  induction waits generalizing t with
  | zero =>
    obtain ⟨rest, rfl, further⟩ | ⟨stuck, log, rfl, noted, rfl⟩ := runs_unlessCancelled run
    · obtain ⟨completion, rfl, collect⟩ := runs_attempt_ofTotal.1 further
      cases runs_request.1 collect
      refine .inl ⟨completion, ?_, rfl⟩
      rw [events_append, events_clear]
      rfl
    · exact .inr ⟨killed noted, rfl⟩
  | succ waits ih =>
    obtain ⟨rest, rfl, further⟩ | ⟨stuck, log, rfl, noted, rfl⟩ := runs_unlessCancelled run
    · obtain ⟨_, later, _, rfl, wait, last⟩ := runs_attempt_ofTotal_bind.1 further
      cases runs_request.1 wait
      -- a wait is no event
      rw [events_append, events_clear]
      change (∃ completion, events later = _ ∧ _) ∨ events later = _ ∧ _
      exact ih last
    · exact .inr ⟨killed noted, rfl⟩

/-- The process is waited for only right behind a check. -/
theorem guarded_await {waits : Nat} {r : Except Fault Completion}
    (run : Runs (await cancellable waits).attempt t r) : Guarded cancellable t := by
  have killed {stuck : Option Nat} {log : Trace} (noted : ∀ e ∈ log, Looks e.request) :
      Guarded cancellable (⟨.isCancelled, true⟩ :: ⟨.kill, stuck⟩ :: log) := by
    refine guarded_of_quiet (List.forall_mem_cons.2 ⟨id, List.forall_mem_cons.2 ⟨id, ?_⟩⟩)
    exact fun e he => not_acts_of_looks (noted e he)
  induction waits generalizing t with
  | zero =>
    obtain ⟨rest, rfl, further⟩ | ⟨stuck, log, rfl, noted, rfl⟩ := runs_unlessCancelled run
    · obtain ⟨completion, rfl, collect⟩ := runs_attempt_ofTotal.1 further
      cases runs_request.1 collect
      exact guarded_clear _
    · exact killed noted
  | succ waits ih =>
    obtain ⟨rest, rfl, further⟩ | ⟨stuck, log, rfl, noted, rfl⟩ := runs_unlessCancelled run
    · obtain ⟨_, later, _, rfl, wait, last⟩ := runs_attempt_ofTotal_bind.1 further
      cases runs_request.1 wait
      rw [← List.append_assoc]
      exact (guarded_clear _).append (ih last)
    · exact killed noted

/-! ### The command -/

variable {settings : Settings} {root : String} {paths : List String}

/-- The command and the options of the settings can be cut into words. -/
def Splits (settings : Settings) : Prop :=
  (∃ start, Text.shellWords settings.command = .ok start) ∧
    ∃ options, Text.shellWords settings.arguments = .ok options

/-- The options for a configuration file that was found. -/
def configOptions : Option String → List String
  | some path => if path = "" then [] else ["--config-file", path]
  | none => []

/-- A line is cut into words, or it is not. -/
theorem runs_words {line : String} {r : Except Fault (List String)}
    (run : Runs (words line).attempt t r) :
    t = [] ∧ ((∃ ws, Text.shellWords line = .ok ws ∧ r = .ok ws) ∨
      ∃ e, Text.shellWords line = .error e ∧ r = .error (.badValue e.message)) := by
  obtain ⟨rfl, rfl⟩ := runs_attempt_ofExcept.1 run
  refine ⟨rfl, ?_⟩
  cases Text.shellWords line with
  | ok ws => exact .inl ⟨ws, rfl, rfl⟩
  | error e => exact .inr ⟨e, rfl, rfl⟩

/-- The command consists of the configured words, the required options, the configuration file, the
configured options and the paths; or the settings cannot be cut into words. -/
theorem runs_command {r : Except Fault (List String)}
    (run : Runs (command settings root paths).attempt t r) :
    (∃ start config options, Text.shellWords settings.command = .ok start ∧
      Runs (locateConfig root settings.configFile) t config ∧
      Text.shellWords settings.arguments = .ok options ∧
      r = .ok (start ++ requiredOptions ++ configOptions config ++ options ++ paths.mergeSort)) ∨
    ¬ Splits settings ∧ ∃ e : Text.WordsError, r = .error (.badValue e.message) := by
  unfold command at run
  obtain ⟨t₁, t₂, start, rfl, cut, rest⟩ | ⟨fault, rfl, cut⟩ := runs_attempt_bind.1 run
  · obtain ⟨rfl, ⟨_, cut, same⟩ | ⟨e, -, failed⟩⟩ := runs_words cut
    · obtain rfl := Except.ok.inj same
      obtain ⟨t₃, t₄, config, rfl, located, rest⟩ := runs_attempt_ofTotal_bind.1 rest
      dsimp only at rest
      split at rest
      · next none =>
        obtain ⟨rfl, rfl⟩ := runs_attempt_pure.1 rest
        refine .inl ⟨start, config, [], cut, ?_, by rw [none]; rfl, rfl⟩
        rwa [List.append_nil]
      · obtain ⟨t₅, t₆, options, rfl, optioned, last⟩ | ⟨fault, rfl, uncut⟩ :=
          runs_attempt_bind.1 rest
        · obtain ⟨rfl, ⟨_, optioned, same⟩ | ⟨e, -, failed⟩⟩ := runs_words optioned
          · obtain rfl := Except.ok.inj same
            obtain ⟨rfl, rfl⟩ := runs_attempt_pure.1 last
            refine .inl ⟨start, config, options, cut, ?_, optioned, rfl⟩
            simpa using located
          · cases failed
        · obtain ⟨rfl, ⟨_, -, same⟩ | ⟨e, whole, failed⟩⟩ := runs_words uncut
          · cases same
          · obtain rfl := Except.error.inj failed
            refine .inr ⟨?_, e, rfl⟩
            rintro ⟨-, options, fits⟩
            cases whole.symm.trans fits
    · cases failed
  · obtain ⟨rfl, ⟨_, -, same⟩ | ⟨e, whole, failed⟩⟩ := runs_words cut
    · cases same
    · obtain rfl := Except.error.inj failed
      refine .inr ⟨?_, e, rfl⟩
      rintro ⟨⟨start, fits⟩, -⟩
      cases whole.symm.trans fits

/-- A command that is put together was cut into words. -/
theorem splits_of_command {ws : List String}
    (run : Runs (command settings root paths).attempt t (.ok ws)) : Splits settings := by
  obtain ⟨start, _, options, cut, -, optioned, -⟩ | ⟨-, _, failed⟩ := runs_command run
  · exact ⟨⟨start, cut⟩, options, optioned⟩
  · cases failed

/-! ### A run of the tool -/

/-- What becomes of the fault of a process that cannot be started. -/
def startFault (words : List String) (fault : Fault) : Fault :=
  if fault.isSystem then
    .failed (.tool none none)
      ("Unable to start mypy (" ++ words.headD "" ++ "): " ++ fault.message) (some fault)
  else fault

/-- A run of the tool puts the command together, and then it is given up before the start, or it
cannot start the process, or it waits for it. -/
theorem runs_run {r : Except Fault (List String)}
    (run : Runs (run settings root paths cancellable).attempt t r) :
    (∃ fault, r = .error fault ∧ Runs (command settings root paths).attempt t (.error fault)) ∨
    ∃ look words rest, t = look ++ rest ∧
      Runs (command settings root paths).attempt look (.ok words) ∧
      (cancellable = true ∧ rest = [⟨.isCancelled, true⟩] ∧ r = .error .scanCancelled ∨
      (∃ fault, rest = clear cancellable ++ [⟨.start words root, .error fault⟩] ∧
        r = .error (startFault words fault)) ∨
      ∃ waits later ending,
        rest = clear cancellable ++ [⟨.start words root, .ok waits⟩] ++ later ∧
        Runs (await cancellable waits).attempt later ending ∧ r = ending.bind result) := by
  unfold Tool.run at run
  obtain ⟨look, rest, words, rfl, command, goes⟩ | unready := runs_attempt_bind.1 run
  · refine .inr ⟨look, words, rest, rfl, command, ?_⟩
    obtain ⟨t₁, t₂, _, rfl, check, further⟩ | ⟨fault, rfl, check⟩ := runs_attempt_bind.1 goes
    · obtain ⟨rfl, -⟩ | ⟨-, -, failed⟩ := runs_check check
      · obtain ⟨_, t₃, started, rfl, start, last⟩ := runs_attempt_ofTotal_bind.1 further
        cases runs_request.1 start
        cases started with
        | error fault =>
          refine .inr (.inl ⟨fault, ?_⟩)
          unfold startFault
          dsimp only at last
          split at last
          all_goals
            obtain ⟨rfl, rfl⟩ := runs_attempt_throw.1 last
            exact ⟨rfl, by simp [*]⟩
        | ok waits =>
          refine .inr (.inr ⟨waits, t₃, ?_⟩)
          obtain ⟨t₄, t₅, completion, rfl, wait, sorted⟩ | ⟨fault, rfl, wait⟩ :=
            runs_attempt_bind.1 last
          · obtain ⟨rfl, rfl⟩ := runs_attempt_ofExcept.1 sorted
            refine ⟨.ok completion, by simp, by simpa using wait, rfl⟩
          · exact ⟨.error fault, by simp, wait, rfl⟩
      · cases failed
    · obtain ⟨-, failed⟩ | ⟨token, rfl, failed⟩ := runs_check check
      · cases failed
      · obtain rfl := Except.error.inj failed
        exact .inl ⟨token, rfl, rfl⟩
  · exact .inl unready

/-- A run with settings that can be cut into words has one of four courses: the token is tripped
before the start, the start fails, the token trips while the process runs, or the output is
collected. -/
theorem events_run {r : Except Fault (List String)} (splits : Splits settings)
    (run : Runs (run settings root paths cancellable).attempt t r) :
    events t = [.tripped] ∧ r = .error .scanCancelled ∨
    (∃ words fault, ⟨.start words root, .error fault⟩ ∈ t ∧ events t = [.unstarted fault] ∧
      r = .error (startFault words fault)) ∨
    events t = [.started, .tripped, .killed] ∧ r = .error runCancelled ∨
    ∃ completion, events t = [.started, .collected completion] ∧ r = result completion := by
  obtain ⟨fault, rfl, uncut⟩ | ⟨look, words, rest, rfl, command, ways⟩ := runs_run run
  · obtain ⟨_, _, _, -, -, -, same⟩ | ⟨unsplit, -⟩ := runs_command uncut
    · cases same
    · exact absurd splits unsplit
  · have quiet : events look = [] :=
      events_of_looks (command.asksOnly (command_looks settings root paths))
    rw [events_append, quiet, List.nil_append]
    obtain ⟨-, rfl, rfl⟩ | ⟨fault, rfl, rfl⟩ | ⟨waits, later, ending, rfl, wait, rfl⟩ := ways
    · exact .inl ⟨rfl, rfl⟩
    · refine .inr (.inl ⟨words, fault, by simp, ?_, rfl⟩)
      rw [events_append, events_clear]
      rfl
    · rw [events_append, events_append, events_clear]
      obtain ⟨completion, collected, rfl⟩ | ⟨killed, rfl⟩ := events_await wait
      · exact .inr (.inr (.inr ⟨completion, by rw [collected]; rfl, rfl⟩))
      · exact .inr (.inr (.inl ⟨by rw [killed]; rfl, rfl⟩))

/-- The process is started and waited for only right behind a check. -/
theorem guarded_run {r : Except Fault (List String)}
    (run : Runs (run settings root paths cancellable).attempt t r) : Guarded cancellable t := by
  have looking {look : Trace} {r : Except Fault (List String)}
      (command : Runs (command settings root paths).attempt look r) : Guarded cancellable look :=
    guarded_of_quiet fun e he =>
      not_acts_of_looks (command.asksOnly (command_looks settings root paths) e he)
  obtain ⟨fault, rfl, uncut⟩ | ⟨look, words, rest, rfl, command, ways⟩ := runs_run run
  · exact looking uncut
  · refine (looking command).append ?_
    obtain ⟨-, rfl, rfl⟩ | ⟨fault, rfl, rfl⟩ | ⟨waits, later, ending, rfl, wait, rfl⟩ := ways
    · exact guarded_of_quiet (List.forall_mem_singleton.2 id)
    · exact guarded_clear _
    · exact (guarded_clear _).append (guarded_await wait)

end Tool

end LiveCheck
