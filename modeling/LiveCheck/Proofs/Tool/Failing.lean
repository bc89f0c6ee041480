import LiveCheck.Proofs.Scan.Heeding
import LiveCheck.Proofs.Tool.Protocol
import LiveCheck.Shell.Run

/-!
# How the tool fails

A run of the tool is to end in one of three ways: with lines, cancelled, or with a failure of the
tool.  Then a scan whose tool could not be run shows that failure, and not one that says only that
something went wrong.

The promise is kept from the start of the process on.  It is broken before: settings are accepted
whose command cannot be cut into words, such as one with a quote that is not closed, and the error
of that leaves the run as it is.  A null character in a path is the only other way.
`promised_iff` says that there is no third one, and `judge_of_tool` what the user is shown.
-/

namespace LiveCheck

open Program

/-! ### Null characters -/

namespace Text

/-- The characters of the words of a line stand in the line; only a backslash may be kept. -/
theorem mem_of_shellWordsFrom {mode : WordsMode} {word : Option (List Char)} {s : List Char}
    {ws : List (List Char)} (cut : shellWordsFrom mode word s = .ok ws) {w : List Char}
    (hw : w ∈ ws) {c : Char} (hc : c ∈ w) : c ∈ s ∨ c ∈ word.getD [] ∨ c = '\x5c' := by
  fun_induction shellWordsFrom mode word s generalizing ws with
  | case1 =>
    cases cut
    cases hw
  | case2 word =>
    cases cut
    obtain rfl := List.mem_singleton.1 hw
    exact .inr (.inl (List.mem_reverse.1 hc))
  | case4 d rest separates word ih =>
    -- a word ends here, and the words of the rest follow
    cases more : shellWordsFrom .plain none rest with
    | error e =>
      rw [more] at cut
      cases cut
    | ok ws' =>
      rw [more] at cut
      cases cut
      obtain rfl | hw := List.mem_cons.1 hw
      · exact .inr (.inl (List.mem_reverse.1 hc))
      · obtain there | held | rfl := ih more hw
        · exact .inl (List.mem_cons_of_mem _ there)
        · cases held
        · exact .inr (.inr rfl)
  | _ =>
    -- the line ends too early, or one more character is read
    first
    | cases cut
    | rename_i ih
      have kept := ih cut hw
      simp only [Option.getD_some, Option.getD_none, List.mem_cons] at kept ⊢
      tauto

/-- The words of a line without null characters have none. -/
theorem null_notMem_of_shellWords {line : String} {ws : List String}
    (cut : shellWords line = .ok ws) (named : '\x00' ∉ line.toList) :
    ∀ w ∈ ws, '\x00' ∉ w.toList := by
  unfold shellWords at cut
  cases more : shellWordsFrom .plain none line.toList with
  | error e =>
    rw [more] at cut
    cases cut
  | ok ws' =>
    rw [more] at cut
    cases cut
    intro w hw null
    obtain ⟨cs, hcs, rfl⟩ := List.mem_map.1 hw
    rw [String.toList_ofList] at null
    obtain there | held | backslash := mem_of_shellWordsFrom more hcs null
    · exact named there
    · cases held
    · cases backslash

end Text

namespace Path

/-- The characters of a path that is seen from another one stand in one of the two. -/
theorem mem_joinChars {base path : List Char} {c : Char} (hc : c ∈ joinChars base path) :
    c ∈ base ∨ c = '/' ∨ c ∈ path := by
  unfold joinChars at hc
  split at hc
  · exact .inr (.inr hc)
  · split at hc
    · obtain hc | hc := List.mem_append.1 hc
      · exact .inl hc
      · exact .inr (.inr hc)
    · obtain hc | hc := List.mem_append.1 hc
      · exact .inl hc
      · exact .inr (List.mem_cons.1 hc)

/-- A path that is joined of two without null characters has none. -/
theorem null_notMem_join {base path : String} (hbase : '\x00' ∉ base.toList)
    (hpath : '\x00' ∉ path.toList) : '\x00' ∉ (join base path).toList := by
  unfold join
  rw [String.toList_ofList]
  intro null
  obtain there | slash | there := mem_joinChars null
  · exact hbase there
  · cases slash
  · exact hpath there

end Path

namespace Shell

/-- There is a null character in words exactly if it is in one of them. -/
theorem hasNull_eq_true {words : List String} :
    hasNull words = true ↔ ∃ w ∈ words, '\x00' ∈ w.toList := by
  simp [hasNull]

/-- Words with a null character are refused, and otherwise only the system fails to start them. -/
theorem start_error (disk : Disk) (words : List String) (directory : String) :
    (hasNull (directory :: words) = true →
      start disk words directory = .error (.badValue "embedded null byte")) ∧
    (hasNull (directory :: words) = false → ∀ fault, start disk words directory = .error fault →
      fault.isSystem = true) := by
  refine ⟨fun null => if_pos null, fun named fault failed => ?_⟩
  unfold start at failed
  rw [if_neg (by simp [named])] at failed
  repeat' split at failed
  all_goals cases failed
  all_goals exact SystemError.isSystem_fault _ _

end Shell

namespace Tool

variable {t : Trace} {cancellable : Bool} {settings : Settings} {root : String}
  {paths : List String}

/-- No setting that comes into the command holds a null character. -/
structure NullFree (settings : Settings) : Prop where
  command : '\x00' ∉ settings.command.toList
  arguments : '\x00' ∉ settings.arguments.toList
  configFile : ∀ name, settings.configFile = some name → '\x00' ∉ name.toList

/-- The first file of several is one of them. -/
theorem mem_of_firstFile {path : String} (run : Runs (firstFile paths) t (some path)) :
    path ∈ paths := by
  induction paths generalizing t with
  | nil => cases (runs_pure.1 run).2
  | cons first rest ih =>
    unfold firstFile at run
    obtain ⟨isFile, t', rfl, further⟩ := runs_request_bind.1 run
    split at further
    · cases (runs_pure.1 further).2
      exact List.mem_cons_self
    · exact List.mem_cons_of_mem _ (ih further)

/-- A configuration file that is found stands in the project, under a usual name or the configured
one. -/
theorem exists_of_locateConfig {configured : Option String} {path : String}
    (run : Runs (locateConfig root configured) t (some path)) :
    ∃ name, path = Path.join root name ∧ (name ∈ configNames ∨ configured = some name) := by
  have usual (run : Runs (firstFile (configNames.map (Path.join root))) t (some path)) :
      ∃ name, path = Path.join root name ∧ (name ∈ configNames ∨ configured = some name) := by
    obtain ⟨name, mem, rfl⟩ := List.mem_map.1 (mem_of_firstFile run)
    exact ⟨name, rfl, .inl mem⟩
  unfold locateConfig at run
  split at run
  · exact usual run
  · exact usual run
  · next name _ =>
    obtain ⟨isFile, t', rfl, further⟩ := runs_request_bind.1 run
    split at further
    · cases (runs_pure.1 further).2
      exact ⟨name, rfl, .inr rfl⟩
    · obtain ⟨_, _, _, rfl, -, last⟩ := runs_bind.1 further
      cases (runs_pure.1 last).2

/-- The option for a configuration file holds no null character unless the directory does. -/
theorem null_notMem_configOptions {config : Option String} (free : NullFree settings)
    (located : Runs (locateConfig root settings.configFile) t config)
    (hroot : '\x00' ∉ root.toList) : ∀ w ∈ configOptions config, '\x00' ∉ w.toList := by
  have usualNames : ∀ name ∈ configNames, '\x00' ∉ name.toList := by decide
  cases config with
  | none => exact fun _ h => absurd h List.not_mem_nil
  | some path =>
    obtain ⟨name, rfl, usual⟩ := exists_of_locateConfig located
    have named : '\x00' ∉ name.toList := usual.elim (usualNames name) (free.configFile name)
    simp only [configOptions]
    split
    · exact fun _ h => absurd h List.not_mem_nil
    · refine List.forall_mem_cons.2 ⟨?_, List.forall_mem_singleton.2 ?_⟩
      · decide
      · exact Path.null_notMem_join hroot named

/-- The settings bring no null character into the command: if there is one, it is in the directory
or in a path. -/
theorem hasNull_command {words : List String} (free : NullFree settings)
    (run : Runs (command settings root paths).attempt t (.ok words)) :
    Shell.hasNull (root :: words) = Shell.hasNull (root :: paths) := by
  obtain ⟨start, config, options, cut, located, optioned, same⟩ | ⟨-, e, failed⟩ :=
    runs_command run
  · obtain rfl := Except.ok.inj same
    have starts := Text.null_notMem_of_shellWords cut free.command
    have further := Text.null_notMem_of_shellWords optioned free.arguments
    have required : ∀ w ∈ requiredOptions, '\x00' ∉ w.toList := by decide
    rw [Bool.eq_iff_iff, Shell.hasNull_eq_true, Shell.hasNull_eq_true]
    by_cases hroot : '\x00' ∈ root.toList
    · exact iff_of_true ⟨root, List.mem_cons_self, hroot⟩ ⟨root, List.mem_cons_self, hroot⟩
    · have located := null_notMem_configOptions free located hroot
      refine exists_congr fun w => and_congr_left fun null => ?_
      -- a word with a null character can only be a path
      have others : w ∉ start ∧ w ∉ requiredOptions ∧ w ∉ configOptions config ∧ w ∉ options :=
        ⟨fun h => starts w h null, fun h => required w h null, fun h => located w h null,
          fun h => further w h null⟩
      simp [others]
  · cases failed

/-! ### What is promised of the end -/

/-- The run ends as promised: with lines, or cancelled, or with a failure of the tool. -/
def Promised : Except Fault (List String) → Prop
  | .ok _ => True
  | .error fault =>
    (∃ message, fault = .cancelled message) ∨
      ∃ status stderr, fault.detail? = some (.tool status stderr)

/-- Processes are started as they are by the system: a null character is refused as a value, and
otherwise only a system call can fail. -/
def Systemic (t : Trace) : Prop :=
  ∀ words directory reply, ⟨.start words directory, reply⟩ ∈ t →
    (Shell.hasNull (directory :: words) = true →
      reply = .error (.badValue "embedded null byte")) ∧
    (Shell.hasNull (directory :: words) = false → ∀ fault, reply = .error fault →
      fault.isSystem = true)

/-- A process is to be started. -/
def Starts (t : Trace) : Prop := ∃ words directory reply, ⟨.start words directory, reply⟩ ∈ t

/-- Nothing is in the way of the promise: the settings can be cut into words, and there is no null
character in the directory and the paths once a process is to be started. -/
def Startable (settings : Settings) (root : String) (paths : List String) (t : Trace) : Prop :=
  Splits settings ∧ (Starts t → Shell.hasNull (root :: paths) = false)

/-- The end of a tool that has ended is promised. -/
theorem promised_result (c : Completion) : Promised (result c) := by
  unfold result
  split
  · trivial
  · exact .inr ⟨_, _, rfl⟩

/-- A fault of the value of a setting is not promised. -/
theorem not_promised_badValue {message : String} : ¬ Promised (.error (.badValue message)) := by
  rintro (⟨_, cancelled⟩ | ⟨_, _, detail⟩)
  · cases cancelled
  · cases detail

/-- A run of the tool ends as promised exactly if nothing is in the way; otherwise it ends with the
fault of a value. -/
theorem promised_iff {r : Except Fault (List String)} (free : NullFree settings)
    (systemic : Systemic t) (run : Runs (run settings root paths cancellable).attempt t r) :
    (Promised r ↔ Startable settings root paths t) ∧
    (¬ Startable settings root paths t → ∃ message, r = .error (.badValue message)) := by
  obtain ⟨fault, rfl, uncut⟩ | ⟨look, words, rest, rfl, command, ways⟩ := runs_run run
  · obtain ⟨_, _, _, -, -, -, same⟩ | ⟨unsplit, e, failed⟩ := runs_command uncut
    · cases same
    · obtain rfl := Except.error.inj failed
      exact ⟨iff_of_false not_promised_badValue fun h => unsplit h.1, fun _ => ⟨_, rfl⟩⟩
  · have splits := splits_of_command command
    have quiet := command.asksOnly (command_looks settings root paths)
    have same := hasNull_command free command
    obtain ⟨-, rfl, rfl⟩ | ⟨fault, rfl, rfl⟩ | ⟨waits, later, ending, rfl, wait, rfl⟩ := ways
    · -- nothing is started
      have startable : Startable settings root paths (look ++ [⟨.isCancelled, true⟩]) := by
        refine ⟨splits, ?_⟩
        rintro ⟨words, directory, reply, mem⟩
        obtain mem | mem := List.mem_append.1 mem
        · exact (quiet _ mem).elim
        · cases List.mem_singleton.1 mem
      exact ⟨iff_of_true (.inl ⟨_, rfl⟩) startable, fun h => absurd startable h⟩
    · -- the fault of the start decides
      obtain ⟨null, named⟩ := systemic words root (.error fault) (by simp)
      have started : Starts (look ++ (clear cancellable ++ [⟨.start words root, .error fault⟩])) :=
        ⟨words, root, .error fault, by simp⟩
      rw [same] at null named
      unfold startFault
      cases unnamed : Shell.hasNull (root :: paths) with
      | true =>
        obtain rfl := Except.error.inj (null unnamed)
        have stuck : ¬ Startable settings root paths _ := fun h =>
          nomatch unnamed.symm.trans (h.2 started)
        exact ⟨iff_of_false not_promised_badValue stuck, fun _ => ⟨_, rfl⟩⟩
      | false =>
        rw [if_pos (named unnamed fault rfl)]
        exact ⟨iff_of_true (.inr ⟨_, _, rfl⟩) ⟨splits, fun _ => unnamed⟩,
          fun h => absurd ⟨splits, fun _ => unnamed⟩ h⟩
    · -- a process that is started has no null character in its command
      obtain ⟨null, -⟩ := systemic words root (.ok waits) (by simp)
      rw [same] at null
      have named : Shell.hasNull (root :: paths) = false :=
        Bool.eq_false_iff.2 fun h => nomatch null h
      refine ⟨iff_of_true ?_ ⟨splits, fun _ => named⟩, fun h => absurd ⟨splits, fun _ => named⟩ h⟩
      obtain ⟨completion, -, rfl⟩ | ⟨-, rfl⟩ := events_await wait
      · exact promised_result completion
      · exact .inl ⟨_, rfl⟩

end Tool

/-! ### What the user is shown -/

namespace Scan

open Trace

variable {scan : Scan} {id : String} {t : Trace} {r : Except Fault Report} {error : Fault}

/-- A scan that fails after it has entered the phase of the tool, and before that of its lines,
fails because of what comes out of the tool. -/
theorem exists_invoke (run : Runs scan.run t r)
    (concluded : ⟨.conclude (.failed id error), ()⟩ ∈ t) (entered : .invoking ∈ phases t)
    (unentered : .parsing ∉ phases t) :
    ∃ paths part fault, part <:+: t ∧ Runs (scan.invoke paths).attempt part (.error fault) ∧
      ∃ id', judge id' (.error fault) = .ok (.failed id error) := by
  obtain ⟨id', t₁, t₂, told, obtained, announced, -, rfl⟩ := exists_of_concluded run concluded
  obtain ⟨hearing, -, seen₂⟩ := runs_announce announced
  -- the phases of the outcome are others
  have shown : ∀ phase ∈ [Phase.invoking, .parsing],
      phase ∈ phases (⟨.freshId, id'⟩ :: (t₁ ++ ⟨.conclude (.failed id error), ()⟩ ::
        (t₂ ++ [⟨.enter .idle, ()⟩]))) ↔ phase ∈ phases t₁ := by
    cases hearing <;> simp [phases, seen₂, Exchange.sight?, Sight.phase?, Closing.sights,
      Hearing.sights, Outcome.phase, Outcome.error?]
  rw [shown .invoking (by simp)] at entered
  rw [shown .parsing (by simp)] at unentered
  obtain ⟨s₁, s₂, made, ended, removed, rfl, perform, delete, judged⟩ := runs_obtain.1 obtained
  have quiet := (delete.about (Snapshot.deleteAll_asks _)).sights_eq_nil (by simp)
  have judged : judge id' ended = .ok (.failed id error) := by
    cases removed with
    | ok _ => exact judged.symm
    | error fault =>
      cases (judge_of_leaves (Snapshot.leaves_of_deleteAll delete)).symm.trans judged.symm
  cases runs_perform perform with
  | unstarted start =>
    obtain ⟨opening, seen, -⟩ := sights_start start
    cases opening <;> simp [phases, quiet, seen, Sight.phase?, Opening.sights] at entered
  | nothing start =>
    cases judged
  | unprepared start make =>
    obtain ⟨opening, seen, -⟩ := sights_start start
    have quiet' := (make.about (Snapshot.makeAll_asks _ _ _)).sights_eq_nil (by simp)
    cases opening <;> simp [phases, quiet, quiet', seen, Exchange.sight?, Sight.phase?,
      Opening.sights] at entered
  | @prepared u₁ u₂ u₃ h rest made ended start make checked =>
    unfold check at checked
    obtain ⟨v₁, v₂, lines, rfl, -, report⟩ | ⟨fault, rfl, print⟩ := runs_attempt_bind.1 checked
    · refine absurd ?_ unentered
      simp [phases, sights_report report, Sight.phase?]
    · obtain ⟨v, rfl, checking⟩ := runs_enter_bind.1 print
      obtain ⟨w₁, w₂, _, rfl, -, invoke⟩ | ⟨fault, same, stop⟩ := runs_attempt_bind.1 checking
      · refine ⟨_, w₂, fault, ?_, invoke, id', judged⟩
        exact ⟨⟨.freshId, id'⟩ :: (u₁ ++ ⟨.enter .snapshotting, ()⟩ :: (u₂ ++
          ⟨.enter .invoking, ()⟩ :: w₁)), s₂ ++ ⟨.conclude (.failed id error), ()⟩ ::
            (t₂ ++ [⟨.enter .idle, ()⟩]), by simp⟩
      · cases same
        obtain ⟨rfl, -⟩ := Snapshot.runs_checkCancelled_error stop
        cases judged

/-- The outcome of a scan whose tool did not end with lines: its own failure is kept, and the fault
of a value is told as something that went wrong. -/
theorem judge_of_tool {fault : Fault} {id' : String}
    (judged : judge id' (.error fault) = .ok (.failed id error)) :
    (Tool.Promised (.error fault) ↔ ∃ status stderr, error.detail? = some (.tool status stderr)) ∧
    ∀ message, fault = .badValue message →
      error = .failureFrom .general genericMessage (.badValue message) := by
  cases fault with
  | cancelled message => cases judged
  | failure detail message =>
    cases judged
    refine ⟨?_, nofun⟩
    unfold Tool.Promised
    exact or_iff_right nofun
  | failureFrom detail message cause =>
    cases judged
    refine ⟨?_, nofun⟩
    unfold Tool.Promised
    exact or_iff_right nofun
  | raised family name message =>
    unfold judge at judged
    split at judged
    · cases judged
    · cases judged
    · next raised _ same =>
      cases same
      split at judged
      · cases judged
      · cases judged
        refine ⟨iff_of_false ?_ ?_, fun message same => by rw [← same]; rfl⟩
        · rintro (⟨_, same⟩ | ⟨_, _, same⟩)
          · cases same
          · cases same
        · rintro ⟨_, _, same⟩
          cases same

end Scan

namespace Tool

/-- How the tool fails.  For settings without null characters, and processes that are started as
they are by the system, a run of the tool ends as promised exactly if the settings can be cut into
words and no null character stands in the directory or in a path of a process that is started;
otherwise it ends with the fault of a value.  A scan that fails in the phase of the tool fails
because of such a run, and accordingly with a failure of the tool, or with one that says only that
something went wrong. -/
theorem failures {settings : Settings} (free : NullFree settings) :
    (∀ root paths cancellable t r, Systemic t →
      Runs (run settings root paths cancellable).attempt t r →
      (Promised r ↔ Startable settings root paths t) ∧
      (¬ Startable settings root paths t → ∃ message, r = .error (.badValue message))) ∧
    ∀ (scan : Scan) t r id error, scan.runner = .tool → scan.settings = settings → Systemic t →
      Runs scan.run t r → ⟨.conclude (.failed id error), ()⟩ ∈ t →
      .invoking ∈ Trace.phases t → .parsing ∉ Trace.phases t →
      ∃ paths part fault, part <:+: t ∧
        Runs (run settings scan.project.base paths true).attempt part (.error fault) ∧
        ((∃ status stderr, error.detail? = some (.tool status stderr)) ↔
          Startable settings scan.project.base paths part) ∧
        (¬ Startable settings scan.project.base paths part → ∃ message,
          error = .failureFrom .general Scan.genericMessage (.badValue message)) := by
  refine ⟨fun _ _ _ _ _ systemic run => promised_iff free systemic run, ?_⟩
  rintro scan t r id error runner rfl systemic run concluded entered unentered
  obtain ⟨paths, part, fault, within, invoke, id', judged⟩ :=
    Scan.exists_invoke run concluded entered unentered
  unfold Scan.invoke at invoke
  rw [runner] at invoke
  have systemic' : Systemic part := fun words directory reply mem =>
    systemic words directory reply (within.subset mem)
  obtain ⟨promised, unpromised⟩ := promised_iff free systemic' invoke
  obtain ⟨kept, wrapped⟩ := Scan.judge_of_tool judged
  refine ⟨paths, part, fault, within, invoke, kept.symm.trans promised, fun stuck => ?_⟩
  obtain ⟨message, failed⟩ := unpromised stuck
  exact ⟨message, wrapped message (Except.error.inj failed)⟩

/-- A rule by which processes are started on a disk without anything but its root. -/
def onEmptyDisk : (r : Request) → r.Reply
  | .start words directory => (Shell.start .empty words directory).map fun _ => 0
  | r => r.nothing

/-- The processes on the disk are started as they are by the system. -/
theorem systemic_onEmptyDisk {α : Type} (p : Program α) : Systemic (answered onEmptyDisk p).1 := by
  intro words directory reply mem
  obtain ⟨_, same⟩ := replies_record _ _ _ _ mem
  obtain rfl : reply = (Shell.start .empty words directory).map fun _ => 0 := same
  obtain ⟨refused, system⟩ := Shell.start_error .empty words directory
  refine ⟨fun null => by rw [refused null]; rfl, fun named fault failed => ?_⟩
  cases started : Shell.start .empty words directory with
  | ok completion =>
    rw [started] at failed
    cases failed
  | error fault' =>
    rw [started] at failed
    cases failed
    exact system named _ started

/-- Nothing can be run in a directory that is not there, and that is a failure of the tool. -/
theorem missing_directory_promised :
    let ended := answered onEmptyDisk (run .default "/p" ["/p/a.py"] true).attempt
    Startable .default "/p" ["/p/a.py"] ended.1 ∧ Promised ended.2 := by
  intro ended
  have free : NullFree .default := ⟨by decide, by decide, nofun⟩
  have startable : Startable .default "/p" ["/p/a.py"] ended.1 :=
    ⟨⟨⟨["mypy"], by decide +kernel⟩, [], rfl⟩, fun _ => by decide⟩
  exact ⟨startable, ((failures free).1 _ _ _ _ _ (systemic_onEmptyDisk _)
    (runs_answered _ _)).1.2 startable⟩

/-- The settings with a command whose quote is not closed. -/
def unclosed : Settings := { Settings.default with command := "mypy \x27" }

/-- These settings are accepted. -/
theorem unclosed_accepted : Settings.load (fun _ => none)
    (fun setting => if setting = .command then some (.text "mypy \x27") else none) =
      .ok unclosed := by
  rfl

/-- Accepted settings without null characters do not always let the tool end as promised. -/
theorem not_always_promised :
    ¬ ∀ environment override settings root paths cancellable t r,
      Settings.load environment override = .ok settings → NullFree settings → Systemic t →
      Runs (run settings root paths cancellable).attempt t r → Promised r := by
  intro all
  have free : NullFree unclosed := ⟨by decide, by decide, nofun⟩
  have promised := all _ _ _ "/p" ["/p/a.py"] true _ _ unclosed_accepted free
    (systemic_onEmptyDisk _) (runs_answered onEmptyDisk _)
  have ended : (answered onEmptyDisk (run unclosed "/p" ["/p/a.py"] true).attempt).2 =
      .error (.badValue "No closing quotation") := by decide +kernel
  rw [ended] at promised
  exact not_promised_badValue promised

end Tool

end LiveCheck
