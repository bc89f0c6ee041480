import LiveCheck.Proofs.CommandLine.Alone
import LiveCheck.Proofs.Scan.Reported
import LiveCheck.Proofs.Tool

/-!
# The verdict of the command line

The status of a run and what it prints are made from two different things: the status counts grave
diagnostics in the report, and the printout is another list, sorted from all of its files.  Both go
back to the lines of the tool.  A diagnostic is grave because its line says so, in a word that is
neither `warning` nor `note` (`Severity.parse_eq_error_iff`); the lines are those that the tool
printed (`Scan.Success.lines_eq`); and the printout is a listing of what they report.

`run_verdict` puts this together for every run that returns: the status 2 is for settings that are
refused, for a missing directory and for a failure, and then nothing is printed; otherwise the
`Verdict` of the scan says what is printed and which status it is.
-/

namespace LiveCheck

open Program Trace

/-! ### Grave words -/

/-- There are no blanks around a word. -/
theorem Text.trim_of_isWord {s : List Char} (word : ∀ c ∈ s, isWord c = true) : trim s = s := by
  have trimmed {s : List Char} (word : ∀ c ∈ s, isWord c = true) : trimStart s = s :=
    trimStart_of_head? fun c head => isBlank_of_isWord (word c (List.mem_of_mem_head? head))
  unfold trim trimEnd
  rw [trimmed word]
  change (trimStart s.reverse).reverse = s
  rw [trimmed fun c mem => word c (List.mem_reverse.1 mem), List.reverse_reverse]

/-- A word means an error unless it is the one for a warning or the one for a note, in whatever
capitals. -/
theorem Severity.parse_eq_error_iff {s : List Char} (word : ∀ c ∈ s, Text.isWord c = true) :
    Severity.parse (some (String.ofList s)) = .error ↔
      Text.lowerString (String.ofList s) ∉ ["warning", "note"] := by
  have same : Text.trimString (String.ofList s) = String.ofList s := by
    unfold Text.trimString
    rw [String.toList_ofList, Text.trim_of_isWord word]
  unfold Severity.parse
  rw [Option.getD_some, same]
  generalize Text.lowerString (String.ofList s) = lower
  by_cases warning : lower = "warning"
  · subst warning
    decide
  · by_cases note : lower = "note"
    · subst note
      decide
    · have unknown : lower ∉ ["warning", "note"] := by simp [warning, note]
      refine iff_of_true ?_ unknown
      by_cases error : lower = "error"
      · subst error
        rfl
      · have other : Severity.ofWord? lower = none := by
          refine List.find?_eq_none.2 fun severity _ => ?_
          cases severity <;> simp [Severity.word, Ne.symm, warning, note, error, eq_comm]
        rw [other]
        rfl

/-- The severity of a report that is read is a word. -/
theorem ReportLine.isWord_of_parse? {s : List Char} {parts : ReportLine}
    (read : ReportLine.parse? s = some parts) : ∀ c ∈ parts.severity, Text.isWord c = true := by
  obtain ⟨l, -, -, rfl⟩ := Spelling.exists_chosen read
  exact l.severity_word.2

/-! ### Printed lines -/

/-- The lines that an event brings. -/
def Tool.Event.output : Tool.Event → List String
  | collected completion => lines completion
  | _ => []

namespace Trace

/-- The lines that the tool printed. -/
def output (t : Trace) : List String := (Tool.events t).flatMap Tool.Event.output

variable {t t' : Trace}

/-- The lines of a trace are those of its parts. -/
@[simp] theorem output_append : output (t ++ t') = output t ++ output t' := by
  unfold output
  rw [Tool.events_append, List.flatMap_append]

/-- A request that is no event prints nothing. -/
theorem output_cons {e : Exchange} (silent : Tool.event? e = none) :
    output (e :: t) = output t :=
  congrArg (List.flatMap Tool.Event.output) (List.filterMap_cons_none silent)

/-- Nothing is printed where the tool is not asked. -/
theorem About.output_eq_nil {cs : List Concern} (about : About cs t)
    (other : Concern.tool ∉ cs) : output t = [] := by
  refine List.flatMap_eq_nil_iff.2 fun event mem => ?_
  obtain ⟨⟨r, reply⟩, there, is⟩ := List.mem_filterMap.1 mem
  have concern : r.concern ∈ cs := about _ there
  cases r with
  | isCancelled =>
    cases reply <;> cases is
    rfl
  | start | kill | collect => exact absurd concern other
  | _ => cases is

/-- The lines of the tool are handed on. -/
@[simp] theorem output_opened (t : Trace) : output (opened t) = output t := by
  refine congrArg (List.flatMap Tool.Event.output) (filterMap_opened (fun ⟨r, reply⟩ kept => ?_) t)
  cases r with
  | present | listeners => rfl
  | _ => cases kept

end Trace

/-- A run of the tool that returns lines has printed them. -/
theorem Tool.output_run {settings : Settings} {root : String} {paths : List String}
    {cancellable : Bool} {t : Trace} {ls : List String}
    (run : Runs (run settings root paths cancellable).attempt t (.ok ls)) : output t = ls := by
  have splits : Splits settings := by
    obtain ⟨_, failed, -⟩ | ⟨_, words, -, -, command, -⟩ := runs_run run
    · cases failed
    · exact splits_of_command command
  obtain ⟨-, failed⟩ | ⟨_, _, -, -, failed⟩ | ⟨-, failed⟩ | ⟨completion, events, result⟩ :=
    events_run splits run
  · cases failed
  · cases failed
  · cases failed
  · unfold output
    rw [events]
    unfold Tool.result at result
    split at result
    · cases result
      exact List.append_nil _
    · cases result

namespace Scan.Success

variable {scan : Scan} {report : Report}

/-- The lines of a scan are those that the tool printed. -/
theorem lines_eq (c : Success scan report) (runner : scan.runner = .tool) :
    c.lines = output c.trace := by
  obtain ⟨id, files, made, lines, starting, making, printing, reporting, deleting, telling, told,
    start, work, delete, announced⟩ := c
  have starts := (start.about (start_asks scan)).output_eq_nil (by decide)
  have deletes := (delete.about (Snapshot.deleteAll_asks made)).output_eq_nil (by decide)
  have tells := (announced.about (announce_asks _)).output_eq_nil (by decide)
  have around : output making = [] ∧ output printing = lines ∧ output reporting = [] := by
    cases work with
    | nothing => exact ⟨rfl, rfl, rfl⟩
    | checked make print parse =>
      refine ⟨?_, ?_, (parse.about (report_asks _ _ _ _)).output_eq_nil (by decide)⟩
      · rw [output_cons rfl]
        exact (make.about (Snapshot.makeAll_asks _ _ _)).output_eq_nil (by decide)
      · unfold Scan.print at print
        obtain ⟨t₁, t₂, _, rfl, enter, checking⟩ := runs_attempt_bind_ok.1 print
        obtain ⟨t₃, t₄, _, rfl, check, invoke⟩ := runs_attempt_bind_ok.1 checking
        have enters := (enter.about (enter_asks _)).output_eq_nil (by decide)
        have checks := (check.about (checkCancelled_asks true)).output_eq_nil (by decide)
        unfold Scan.invoke at invoke
        rw [runner] at invoke
        rw [output_append, output_append, enters, checks, Tool.output_run invoke]
        rfl
  obtain ⟨makes, prints, reports⟩ := around
  unfold trace before after
  dsimp only
  have concludes : output (⟨.conclude (.success report), ()⟩ :: (telling ++ [⟨.enter .idle, ()⟩])) =
      [] := by
    rw [output_cons rfl, output_append, tells]
    rfl
  rw [List.cons_append, output_cons rfl]
  simp [starts, makes, prints, reports, deletes, concludes]

/-! ### The verdict -/

/-- The line complains of an error in a file of the scan: it has the form of a report, its path
leads to the file, and its severity is neither a warning nor a note. -/
def Complains (c : Success scan report) (line : String) : Prop :=
  ∃ parts h, ReportLine.parse? (Text.trim line.toList) = some parts ∧
    c.mapping.get? (scan.setup.resolvePath (String.ofList parts.path)) = some h ∧ h ∈ c.files ∧
    Text.lowerString (String.ofList parts.severity) ∉ ["warning", "note"]

/-- A line complains just if it is about a file and means an error. -/
theorem complains_iff (c : Success scan report) {line : String} :
    c.Complains line ↔ ∃ h parts, Attribution.target? scan.setup c.mapping line = some (h, parts) ∧
      Severity.parse (some (String.ofList parts.severity)) = .error := by
  unfold Complains Attribution.target?
  constructor
  · rintro ⟨parts, h, read, found, -, grave⟩
    refine ⟨h, parts, ?_, (Severity.parse_eq_error_iff (ReportLine.isWord_of_parse? read)).2 grave⟩
    rw [read]
    dsimp only
    rw [found]
    rfl
  · rintro ⟨h, parts, target, error⟩
    split at target
    · cases target
    · next read =>
      obtain ⟨_, found, same⟩ := Option.map_eq_some_iff.1 target
      cases same
      exact ⟨parts, h, read, found, c.files_subset (c.mem_files_of_get? found),
        (Severity.parse_eq_error_iff (ReportLine.isWord_of_parse? read)).1 error⟩

/-- A report has errors just if a line of the tool complains. -/
theorem count_error_eq_zero_iff (c : Success scan report) :
    report.count .error = 0 ↔ ¬ ∃ line ∈ c.lines, c.Complains line := by
  obtain ⟨ds, reports, taken⟩ := c.exists_reports
  have same : ∀ d, d ∈ report.diagnostics ↔ d ∈ ds := by
    intro d
    rw [taken]
    exact (perm_byKey c.nodup_files fun d mem => reports.file_mem mem).mem_iff
  unfold Report.count
  rw [List.countP_eq_zero]
  constructor
  · rintro none ⟨line, mem, complains⟩
    obtain ⟨h, parts, target, error⟩ := c.complains_iff.1 complains
    obtain ⟨d, there, severity⟩ := reports.exists_of_target? mem target
    exact none d ((same d).2 there) (decide_eq_true (severity.trans error))
  · intro silent d mem grave
    obtain ⟨line, there, parts, target, severity⟩ := reports.exists_target? ((same d).1 mem)
    have error := severity.symm.trans (of_decide_eq_true grave)
    exact silent ⟨line, there, c.complains_iff.2 ⟨_, parts, target, error⟩⟩

end Scan.Success

namespace CommandLine

/-- How a run ends whose scan did not fail.  It prints the diagnostics of the report, each once, by
path, line and column, and at one place in the order in which the tool reported them.  The lines
are those that the tool printed in the run; the status is 1 if one of them complains, and else 0. -/
structure Verdict {scan : Scan} {report : Report} (c : Scan.Success scan report) (t : Trace)
    (finish : Finish) : Prop where
  stdout : ∃ reported listed, c.Reports reported ∧ Diagnostic.Listing reported listed ∧
    listed.Perm report.diagnostics ∧ finish.stdout = printed (listed.map Diagnostic.format)
  lines : c.lines = output t
  one : finish.status = 1 ↔ ∃ line ∈ c.lines, c.Complains line
  zero : finish.status = 0 ↔ ¬ ∃ line ∈ c.lines, c.Complains line

variable {cwd : String} {t : Trace}

/-- With its verdict a run does not end as a failed one does. -/
theorem Verdict.status_ne_two {scan : Scan} {report : Report} {c : Scan.Success scan report}
    {finish : Finish} (verdict : Verdict c t finish) : finish.status ≠ 2 := by
  by_cases complains : ∃ line ∈ c.lines, c.Complains line
  · rw [verdict.one.2 complains]
    decide
  · rw [verdict.zero.2 complains]
    decide

/-- The end of a run whose scan ends with a success. -/
theorem verdict_of_success {arguments : Arguments} {settings : Settings} {base : String}
    {report final : Report} {record : Record}
    (c : Scan.Success (arguments.scan settings cwd base) report) (alone : Alone cwd c.trace)
    (recorded : record.outcome = some (.success final)) :
    Verdict c (⟨.isDirectory base, .ok true⟩ :: opened c.trace) (finish report record) := by
  have none := c.count_error_eq_zero_iff
  have status : (finish report record).status = if report.count .error = 0 then 0 else 1 := by
    unfold finish
    rw [recorded]
  have stdout : (finish report record).stdout =
      CommandLine.printed ((Diagnostic.sort report.diagnostics).map Diagnostic.format) := by
    unfold finish
    rw [recorded]
  have lines : c.lines = output (⟨.isDirectory base, .ok true⟩ :: opened c.trace) := by
    rw [output_cons rfl, output_opened, c.lines_eq rfl]
  obtain ⟨reported, reports, listing⟩ := c.listing_sort rfl rfl alone.resolves
  refine ⟨⟨reported, _, reports, listing, List.mergeSort_perm _ _, stdout⟩, lines, ?_, ?_⟩
  · rw [status]
    by_cases zero : report.count .error = 0
    · exact iff_of_false (by simp [zero]) (none.1 zero)
    · exact iff_of_true (by simp [zero]) (not_not.1 (mt none.2 zero))
  · rw [status, ← none]
    by_cases zero : report.count .error = 0 <;> simp [zero]

/-- The end of a run whose scan fails. -/
theorem finish_failed {report : Report} {record : Record} {id : String} {error : Fault}
    (recorded : record.outcome = some (.failed id error)) :
    (finish report record).status = 2 ∧ (finish report record).stdout = "" := by
  unfold finish
  rw [recorded]
  exact ⟨rfl, rfl⟩

/-- A run with settings that are accepted. -/
theorem scanWith_verdict {arguments : Arguments} {settings : Settings} {finish : Finish}
    (run : Runs (scanWith arguments settings cwd).attempt t (.ok finish)) (alone : Alone cwd t) :
    (finish.status = 2 ↔
      t.head? = some ⟨.isDirectory (arguments.project.getD cwd), .ok false⟩ ∨
      ∃ id error, ⟨.conclude (.failed id error), ()⟩ ∈ t) ∧
    (finish.status = 2 → finish.stdout = "") ∧
    (finish.status ≠ 2 → ∃ report,
      ∃ c : Scan.Success (arguments.scan settings cwd (arguments.project.getD cwd)) report,
        t = ⟨.isDirectory (arguments.project.getD cwd), .ok true⟩ :: opened c.trace ∧
        Verdict c t finish) := by
  obtain ⟨rfl, status, stdout⟩ | ⟨t', outcome, record, rfl, scanned, concluded, recorded, rfl, -⟩ :=
    runs_scanWith run
  · exact ⟨iff_of_true status (.inl rfl), fun _ => stdout, fun other => absurd status other⟩
  · have there : ⟨.conclude outcome, ()⟩ ∈ t' := mem_outcomes.1 (concluded ▸ List.mem_cons_self)
    -- the directory is there, and what the scan concludes with is its outcome
    have directory : ¬ (⟨.isDirectory (arguments.project.getD cwd), .ok true⟩ ::
        opened t' : Trace).head? = some ⟨.isDirectory (arguments.project.getD cwd), .ok false⟩ := by
      simp
    rw [or_iff_right directory]
    simp only [← mem_outcomes]
    change (_ ↔ ∃ id error, Outcome.failed id error ∈ outcomes (opened t')) ∧ _
    simp only [outcomes_opened, concluded, List.mem_singleton]
    cases outcome with
    | failed id error =>
      obtain ⟨status, stdout⟩ := finish_failed recorded
      exact ⟨iff_of_true status ⟨id, error, rfl⟩, fun _ => stdout, fun other => absurd status other⟩
    | cancelled id => exact absurd (Scan.told_of_concluded scanned there) alone.of_opened.untold
    | success report =>
      obtain ⟨c, rfl, -⟩ := Scan.exists_success scanned there
      have verdict := verdict_of_success c alone.of_opened recorded
      exact ⟨iff_of_false verdict.status_ne_two nofun, fun two => absurd two verdict.status_ne_two,
        fun _ => ⟨report, c, rfl, verdict⟩⟩

/-- Every run that returns.  Its status is 2 just if the settings are refused, or the answer to the
first question is that the project is no directory, or the scan concludes with a failure; and then
nothing is printed.  Otherwise there is a scan with these settings that ends with a success, and the
run ends with its verdict. -/
theorem run_verdict {environment : String → Option String} {args : List String}
    {arguments : Arguments} {finish : Finish} (parsed : parse args = .ok (.run arguments))
    (run : Runs (CommandLine.run environment cwd args).attempt t (.ok finish))
    (alone : Alone cwd t) :
    (finish.status = 2 ↔
      (∃ refusals, Settings.load environment arguments.override = .error (.refused refusals)) ∨
      t.head? = some ⟨.isDirectory (arguments.project.getD cwd), .ok false⟩ ∨
      ∃ id error, ⟨.conclude (.failed id error), ()⟩ ∈ t) ∧
    (finish.status = 2 → finish.stdout = "") ∧
    (finish.status ≠ 2 → ∃ settings,
      Settings.load environment arguments.override = .ok settings ∧ ∃ report,
      ∃ c : Scan.Success (arguments.scan settings cwd (arguments.project.getD cwd)) report,
        t = ⟨.isDirectory (arguments.project.getD cwd), .ok true⟩ :: opened c.trace ∧
        Verdict c t finish) := by
  unfold CommandLine.run at run
  rw [parsed] at run
  dsimp only at run
  split at run
  · next refusals loaded =>
    obtain ⟨rfl, same⟩ := runs_attempt_pure.1 run
    cases same
    exact ⟨iff_of_true rfl (.inl ⟨refusals, loaded⟩), fun _ => rfl, fun other => absurd rfl other⟩
  · obtain ⟨-, failed⟩ := runs_attempt_throw.1 run
    cases failed
  · next settings loaded =>
    obtain ⟨two, silent, otherwise⟩ := scanWith_verdict run alone
    have accepted : ¬ ∃ refusals,
        Settings.load environment arguments.override = .error (.refused refusals) := by
      rw [loaded]
      exact fun ⟨_, refused⟩ => nomatch refused
    rw [or_iff_right accepted]
    exact ⟨two, silent, fun other => ⟨settings, loaded, otherwise other⟩⟩

/-- A project with one file on the disk, where nothing is edited. -/
def oneFile : Workspace where
  disk := { entries := [([['p']], .directory), ([['p'], "a.py".toList], .file [0x78])] }
  documents := .fresh "utf-8"
  cwd := "/"
  temporaryDirectory := "/tmp"

/-- A tool that prints a line about the file and a line about another one. -/
def complaining : (r : Request) → r.Reply
  | .collect =>
    { status := 1
      stdout := "/p/a.py:1:5: Error: here  [code]\n/p/b.py:1:1: error: there\n"
      stderr := "" }
  | r => r.nothing

/-- A run over the file: the line about it is printed, with its severity spelled as usual, and the
status is 1 because the line complains. -/
theorem verdict_oneFile :
    let args := ["--project", "/p"]
    let arguments : Arguments := { project := some "/p" }
    let finish : Finish := { status := 1, stdout := "/p/a.py:1:5: error: here  [code]\n" }
    let t := (record (Workspace.reply complaining) oneFile
      (CommandLine.run (fun _ => none) "/" args).attempt).1
    parse args = .ok (.run arguments) ∧
      Runs (CommandLine.run (fun _ => none) "/" args).attempt t (.ok finish) ∧ Alone "/" t ∧
      ∃ report, ∃ c : Scan.Success (arguments.scan Settings.default "/" "/p") report,
        Verdict c t finish ∧ ∃ line ∈ c.lines, c.Complains line := by
  intro args arguments finish t
  have parsed : parse args = .ok (.run arguments) := by decide +kernel
  have ⟨ended, uncancelled⟩ : (record (Workspace.reply complaining) oneFile
        (CommandLine.run (fun _ => none) "/" args).attempt).2.1 = .ok finish ∧
      ∀ e ∈ t, e.request.concern ∉ [Concern.tree, .text] → e.tells = false := by decide +kernel
  have run : Runs (CommandLine.run (fun _ => none) "/" args).attempt t (.ok finish) :=
    ended ▸ runs_record (Workspace.reply complaining) oneFile _
  have alone : Alone "/" t := .of_follows (oneFile.follows_record complaining _) uncancelled
  refine ⟨parsed, run, alone, ?_⟩
  obtain ⟨-, -, otherwise⟩ := run_verdict parsed run alone
  obtain ⟨settings, loaded, report, c, -, verdict⟩ := otherwise (by decide)
  have usual : Settings.load (fun _ => none) arguments.override = .ok Settings.default := rfl
  obtain rfl : settings = Settings.default := Except.ok.inj (loaded.symm.trans usual)
  exact ⟨report, c, verdict, verdict.one.1 rfl⟩

end CommandLine

end LiveCheck
