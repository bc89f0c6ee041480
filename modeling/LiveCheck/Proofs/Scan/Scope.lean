import LiveCheck.CommandLine.Run
import LiveCheck.Proofs.Discovery
import LiveCheck.Proofs.Path.Containment
import LiveCheck.Proofs.Scan.Firing
import LiveCheck.Session.Run

/-!
# Which files a scan is about

A scan can be begun in many places: somebody calls it, a service is asked for it in one of five
ways, the command line asks for it.  Each place has its own way to the candidates and its own rule.
A `Scope` says which files count, in words of the components of paths; an `Origin` says where the
candidates come from; and `Begun` lists the places.  Wherever a scan is begun, the files that its
listeners are told of when it starts are the candidates in its scope, each once, and their order is
fixed (`Begun.starts_in_scope`).

Where directories are walked before the scan, the walk puts its files in order and the scan takes
them for a list.  `Scope.exists_picks` shows that this is no other scan than one that walks the
directories itself.
-/

namespace LiveCheck

open Program

/-! ### Files that count -/

/-- The files that count: those with one of these extensions, in a project or, unless all of its
files are asked for, in its source roots. -/
structure Scope where
  project : Project
  extensions : List String
  allFiles : Bool
  named : extensions ≠ []

namespace Scope

/-- What counts according to settings. -/
def ofSettings (project : Project) (settings : Settings) : Scope :=
  ⟨project, settings.extensions, settings.allFiles, settings.extensions_ne_nil⟩

/-- The rule of a scope. -/
def filter (s : Scope) : Filter := .make s.project s.extensions s.allFiles

/-- The directories in which files count. -/
def roots (s : Scope) : List String :=
  if s.allFiles then [s.project.base] else s.project.sourceRoots

/-- The file counts: in any mixture of capitals and small letters it has one of the extensions, the
components of no excluded root come first in its path, and those of one of the directories do. -/
structure Eligible (s : Scope) (cwd : String) (h : Handle) : Prop where
  extension : ∃ e ∈ s.extensions,
    Text.lowerString e = Text.lowerString (Path.splitExtension h.path).2
  included : ∀ r ∈ s.project.excludedRoots, ¬ Path.parts cwd r <+: Path.parts cwd h.path
  rooted : ∃ r ∈ s.roots, Path.parts cwd r <+: Path.parts cwd h.path

/-- The directories that decide what counts have one slash at their starts. -/
def Plain (s : Scope) (cwd : String) : Prop :=
  ∀ r ∈ s.project.excludedRoots ++ s.roots, Path.IsPlain cwd r

variable {s : Scope} {cwd : String}

/-- The rule of a scope picks what counts. -/
theorem isEligible_iff (plain : s.Plain cwd) (h : Handle) :
    s.filter.isEligible cwd h = true ↔ s.Eligible cwd h := by
  obtain ⟨plainExcluded, plainRoots⟩ := List.forall_mem_append.1 plain
  have extension : s.filter.extensions.contains h.extension = true ↔
      ∃ e ∈ s.extensions, Text.lowerString e = Text.lowerString (Path.splitExtension h.path).2 := by
    unfold filter Filter.make
    rw [List.contains_iff_mem, if_neg s.named, List.mem_map]
    exact Iff.rfl
  have excluded : (!s.project.isExcluded cwd h.path) = true ↔
      ∀ r ∈ s.project.excludedRoots, ¬ Path.parts cwd r <+: Path.parts cwd h.path := by
    unfold Project.isExcluded
    rw [Bool.not_eq_true', ← Bool.not_eq_true, Path.any_isUnder_iff plainExcluded]
    simp only [not_exists, not_and]
  -- one directory or several: both are a search among the directories of the scope
  have rooted : (if s.allFiles then s.project.contains cwd h.path
      else s.project.inSourceRoot cwd h.path) = s.roots.any (Path.isUnder cwd h.path) := by
    unfold roots Project.contains Project.inSourceRoot
    cases s.allFiles <;> simp
  change (_ && _ && if s.allFiles then _ else _) = true ↔ _
  rw [Bool.and_eq_true, Bool.and_eq_true]
  constructor
  · rintro ⟨⟨ext, out⟩, under⟩
    exact ⟨extension.1 ext, excluded.1 out, (Path.any_isUnder_iff plainRoots _).1 (rooted ▸ under)⟩
  · rintro ⟨ext, out, under⟩
    exact ⟨⟨extension.2 ext, excluded.2 out⟩, rooted ▸ (Path.any_isUnder_iff plainRoots _).2 under⟩

end Scope

/-! ### Candidates -/

/-- Where the candidates of a scan come from. -/
inductive Origin where
  /-- They are listed. -/
  | listed (handles : List Handle)
  /-- They are discovered under these roots when the scan runs. -/
  | walked (roots : List Root)
  /-- They were discovered under these roots when the scan was submitted, by a walk with this
  trace. -/
  | gathered (walk : Trace) (roots : List Root)

namespace Origin

/-- The origin of the candidates of a scan that is given these targets. -/
def ofTargets : Targets → Origin
  | .files handles => listed handles
  | .roots roots => walked roots

/-- These are the candidates of a scan whose search has this trace. -/
def Offers (cwd : String) (search : Trace) (candidates : List Handle) : Origin → Prop
  | listed handles => candidates = handles
  | walked roots => ∃ found, Runs (Discovery.discover cwd true roots).attempt search (.ok found) ∧
      candidates = found.files
  | gathered walk roots => ∃ found,
      Runs (Discovery.discover cwd false roots).attempt walk (.ok found) ∧ candidates = found.files

/-- The files stand in the order of the list in which they occur first, or their paths increase:
two files of one path come from different providers. -/
def Ordered (candidates files : List Handle) : Origin → Prop
  | listed _ => files.Pairwise fun h k => candidates.idxOf h < candidates.idxOf k
  | walked _ | gathered _ _ => files.Pairwise fun h k =>
      h.path < k.path ∨ h.path = k.path ∧ h.provider ≠ k.provider

/-- The targets of the scan are those of the origin. -/
def Fits (scan : Scan) : Origin → Prop
  | listed handles => scan.targets = .files handles
  | walked roots => scan.targets = .roots roots
  | gathered walk roots => ∃ files,
      Runs (Discovery.flatten scan.cwd false roots).attempt walk (.ok files) ∧
        scan.targets = .files files

end Origin

/-- The files are the candidates that count, each once and in their order. -/
structure Scope.Picks (s : Scope) (cwd : String) (origin : Origin)
    (candidates files : List Handle) : Prop where
  nodup : files.Nodup
  mem_iff : ∀ h, h ∈ files ↔ h ∈ candidates ∧ s.Eligible cwd h
  ordered : origin.Ordered candidates files

namespace Scope

variable {s : Scope} {cwd : String}

/-- Two different files of which the first has no larger path. -/
theorem lt_or_provider_ne {h k : Handle} (le : h.path ≤ k.path) (ne : h ≠ k) :
    h.path < k.path ∨ h.path = k.path ∧ h.provider ≠ k.provider := by
  by_cases ge : k.path ≤ h.path
  · have path : h.path = k.path := String.le_antisymm le ge
    refine Or.inr ⟨path, fun provider => ne ?_⟩
    cases h
    cases k
    cases path
    cases provider
    rfl
  · exact Or.inl (String.not_le.1 ge)

/-- Of listed files those that count are picked, in the order in which they occur first. -/
theorem picks_listed (plain : s.Plain cwd) (handles : List Handle) :
    s.Picks cwd (.listed handles) handles (s.filter.select cwd handles) where
  nodup := (Filter.nodup_firsts handles).filter _
  mem_iff h := by
    unfold Filter.select
    rw [List.mem_filter, Filter.mem_firsts, isEligible_iff plain]
  ordered := (Filter.pairwise_firsts handles).filter _

/-- The files that count among discovered ones, in the order of their paths. -/
theorem pairwise_select_sorted (found : Discovered) :
    (s.filter.select cwd found.sorted).Pairwise fun h k =>
      h.path < k.path ∨ h.path = k.path ∧ h.provider ≠ k.provider := by
  have part : (s.filter.select cwd found.sorted).Sublist found.sorted :=
    List.filter_sublist.trans (Filter.firsts_sublist _)
  have different : (s.filter.select cwd found.sorted).Pairwise fun h k => h ≠ k :=
    (Filter.nodup_firsts found.sorted).filter _
  exact (different.and (found.pairwise_sorted.sublist part)).imp fun h =>
    lt_or_provider_ne h.2 h.1

/-- A scan with the rule of a scope resolves its files to the candidates that count. -/
theorem exists_picks {scan : Scan} {origin : Origin} (plain : s.Plain scan.cwd)
    (picker : scan.picker = .rule s.filter) (fits : origin.Fits scan) {search : Trace}
    {files : List Handle} (resolve : Runs scan.resolveFiles.attempt search (.ok files)) :
    ∃ candidates, origin.Offers scan.cwd search candidates ∧
      s.Picks scan.cwd origin candidates files := by
  obtain ⟨handles, offered, rfl⟩ := (Scan.runs_resolveFiles picker).1 resolve
  have sorted (found : Discovered) (h : Handle) :
      h ∈ s.filter.select scan.cwd found.sorted ↔ h ∈ found.files ∧ s.Eligible scan.cwd h := by
    rw [(picks_listed plain found.sorted).mem_iff, found.perm_sorted.mem_iff]
  have nodup := (picks_listed plain handles).nodup
  unfold Scan.candidates at offered
  cases origin with
  | listed listed =>
    rw [show scan.targets = _ from fits] at offered
    obtain ⟨-, same⟩ := runs_attempt_pure.1 offered
    cases same
    exact ⟨_, rfl, picks_listed plain _⟩
  | walked roots =>
    rw [show scan.targets = _ from fits] at offered
    obtain ⟨found, discovering, rfl⟩ := Discovery.runs_flatten.1 offered
    exact ⟨_, ⟨found, discovering, rfl⟩, nodup, sorted found, pairwise_select_sorted found⟩
  | gathered walk roots =>
    obtain ⟨files, walked, targets⟩ := fits
    rw [targets] at offered
    -- the scan takes the files for a list, whose order is that of the walk
    obtain ⟨-, same⟩ := runs_attempt_pure.1 offered
    cases same
    obtain ⟨found, discovering, rfl⟩ := Discovery.runs_flatten.1 walked
    exact ⟨_, ⟨found, discovering, rfl⟩, nodup, sorted found, pairwise_select_sorted found⟩

end Scope

/-! ### Where scans are begun -/

namespace Submission

/-- Where the candidates of a submission come from whose walk, if it makes one, has this trace. -/
def origin (project : Project) (walk : Trace) : Submission → Origin
  | .files handles | .current handles => .listed handles
  | .roots starts => .walked starts
  | .sourceRoots => .gathered walk (project.sourceRoots.map .path)
  | .project => .gathered walk [.path project.base]

/-- What counts for a submission.  Those that have a rule of their own do not heed a given one. -/
def scope (project : Project) (settings : Settings) (given : Option Scope) : Submission → Scope
  | .files _ | .roots _ => given.getD (.ofSettings project settings)
  | .current _ | .sourceRoots => .ofSettings project settings
  | .project => { Scope.ofSettings project settings with allFiles := true }

end Submission

/-- The scan is begun in one of the places for it, with candidates of this origin and a rule for
this scope. -/
inductive Begun : Scan → Origin → Scope → Prop where
  /-- Somebody makes the scan and calls it. -/
  | called (project : Project) (settings : Settings) (cwd : String) (runner : Runner)
      (given : Option Scope) (targets : Targets) :
      Begun (.of project settings cwd runner (given.map Scope.filter) targets)
        (.ofTargets targets) (given.getD (.ofSettings project settings))
  /-- The scan is submitted to a service. -/
  | submitted {project : Project} {settings : Settings} {cwd : String} {runner : Runner}
      {given : Option Scope} {submission : Submission} {walk : Trace} {scan : Scan}
      (run : Runs (submission.scan project settings cwd runner
        (given.map Scope.filter)).attempt walk (.ok scan)) :
      Begun scan (submission.origin project walk) (submission.scope project settings given)
  /-- The command line asks for the scan. -/
  | commandLine (arguments : CommandLine.Arguments) (settings : Settings) (cwd base : String) :
      Begun (arguments.scan settings cwd base)
        (.walked ((if arguments.roots = [] then [(Project.make cwd base [] []).base]
          else arguments.roots).map .path))
        (.ofSettings (.make cwd base [] []) settings)

/-- The rule of a scan that is made is that of the scope that is given, or of the settings. -/
theorem Scan.picker_of (project : Project) (settings : Settings) (cwd : String) (runner : Runner)
    (given : Option Scope) (targets : Targets) :
    (Scan.of project settings cwd runner (given.map Scope.filter) targets).picker =
      .rule (given.getD (.ofSettings project settings)).filter := by
  cases given <;> rfl

/-- The scan of a submission has the rule of its scope and the targets of its origin. -/
theorem Submission.scan_spec {project : Project} {settings : Settings} {cwd : String}
    {runner : Runner} {given : Option Scope} {submission : Submission} {walk : Trace} {scan : Scan}
    (run : Runs (submission.scan project settings cwd runner
      (given.map Scope.filter)).attempt walk (.ok scan)) :
    scan.picker = .rule (submission.scope project settings given).filter ∧
      (submission.origin project walk).Fits scan := by
  unfold Submission.scan at run
  obtain ⟨t₁, t₂, ⟨chosen, own⟩, rfl, choosing, last⟩ := runs_attempt_bind_ok.1 run
  obtain ⟨rfl, same⟩ := runs_attempt_pure.1 last
  cases same
  rw [List.append_nil]
  cases submission with
  | files handles | roots starts =>
    obtain ⟨-, same⟩ := runs_attempt_pure.1 choosing
    cases same
    exact ⟨Scan.picker_of project settings cwd runner given _, rfl⟩
  | current handles =>
    obtain ⟨-, same⟩ := runs_attempt_pure.1 choosing
    cases same
    exact ⟨rfl, rfl⟩
  | sourceRoots | project =>
    obtain ⟨t₃, t₄, files, rfl, walked, last⟩ := runs_attempt_bind_ok.1 choosing
    obtain ⟨rfl, same⟩ := runs_attempt_pure.1 last
    cases same
    rw [List.append_nil]
    exact ⟨rfl, files, walked, rfl⟩

namespace Begun

variable {scan : Scan} {origin : Origin} {scope : Scope}

/-- Wherever a scan is begun, its rule is that of its scope. -/
theorem picker_eq (begun : Begun scan origin scope) : scan.picker = .rule scope.filter := by
  cases begun with
  | called project settings cwd runner given targets => exact Scan.picker_of ..
  | submitted run => exact (Submission.scan_spec run).1
  | commandLine => rfl

/-- Wherever a scan is begun, its targets are those of its origin. -/
theorem fits (begun : Begun scan origin scope) : origin.Fits scan := by
  cases begun with
  | called project settings cwd runner given targets => cases targets <;> rfl
  | submitted run => exact (Submission.scan_spec run).2
  | commandLine => rfl

end Begun

namespace Session

variable {play : Player} {asker : Asker} {s s' : Session}

/-- A step that does what an action says has the result of the action. -/
theorem eq_ok_of_act {α : Type} {action : Action α} {a : α}
    (acted : (act play asker action).run.run s = (.ok a, s')) :
    ((perform play asker action).run s).1 = .ok a := by
  have parts : (act play asker action).run.run s =
      let (x, s₁) := (perform play asker action).run s
      (take x).run.run s₁ := rfl
  rw [parts] at acted
  generalize (perform play asker action).run s = performed at acted ⊢
  obtain ⟨x | x, s₁⟩ := performed
  · cases acted
  · cases acted
    rfl

/-- Whatever a session answers while directories are walked, a scan that is submitted to its
service is begun there. -/
theorem exists_begun_of_act {submission : Submission} {project : Project} {settings : Settings}
    {cwd : String} {runner : Runner} {given : Option Scope} {scan : Scan}
    (acted : (act play asker (submission.scan project settings cwd runner
      (given.map Scope.filter))).run.run s = (.ok scan, s')) :
    ∃ walk, Begun scan (submission.origin project walk)
      (submission.scope project settings given) := by
  have run := runs_record (fun s r => (answer play asker r).run s) s
    (submission.scan project settings cwd runner (given.map Scope.filter)).attempt
  rw [record_eq_runWith] at run
  exact ⟨_, .submitted (eq_ok_of_act acted ▸ run)⟩

end Session

/-! ### Files that are told -/

/-- Wherever a scan is begun, listeners are told when it starts of the candidates that count, of
each once and of nothing else, in the order of the list or of the paths; or the scan fails before
it asks for listeners, and nobody is told.  All of them are given one list: the first is told of
these files, and so are the others as long as none of them changes it. -/
theorem Begun.starts_in_scope {scan : Scan} {origin : Origin} {scope : Scope}
    (begun : Begun scan origin scope) (plain : scope.Plain scan.cwd) {t : Trace}
    {r : Except Fault Report} (run : Runs scan.run t r) :
    scan.Unfired t ∨ ∃ f : scan.Firing, f.trace = t ∧
      (Trace.started t).head? = f.registered.head?.map (fun l => (l, f.files)) ∧
      (t.KeepsFiles → ∀ told ∈ Trace.started t, told.2 = f.files) ∧
      ∃ candidates, origin.Offers scan.cwd f.search candidates ∧
        scope.Picks scan.cwd origin candidates f.files := by
  rcases Scan.exists_firing run with unfired | ⟨f, rfl⟩
  · exact Or.inl unfired
  · exact Or.inr ⟨f, rfl, f.head?_started, f.files_of_started,
      Scope.exists_picks plain begun.picker_eq begun.fits f.resolve⟩

/-! ### A scan of listed files -/

namespace Scan

/-- A project with a source root and an excluded directory in it. -/
def generated : Project := .make "/" "/p" ["/p/src"] ["/p/src/gen"]

/-- Listed files: one twice, one beside the source root whose directory begins like its name, one
that is excluded, one under another spelling of an extension, and one with another extension. -/
def listedFiles : List Handle :=
  [{ path := "/p/src/b.py" }, { path := "/p/src2/c.py" }, { path := "/p/src/gen/d.py" },
    { path := "/p/src/a.PY" }, { path := "/p/src/b.py" }, { path := "/p/src/e.txt" }]

/-- A scan of the listed files for which somebody else runs the tool. -/
def listedScan : Scan :=
  .of generated Settings.default "/" .provided none (.files listedFiles)

/-- One listener is registered, and nothing else is there. -/
def followed : (r : Request) → r.Reply
  | .listeners => [⟨"first"⟩]
  | r => r.nothing

end Scan

/-- The listener is told of two of the listed files, which are those in the scope of the scan. -/
theorem Begun.starts_in_scope_listed :
    ∃ f : Scan.listedScan.Firing, f.trace = (answered Scan.followed Scan.listedScan.run).1 ∧
      f.files = [{ path := "/p/src/b.py" }, { path := "/p/src/a.PY" }] ∧
      (Scope.ofSettings Scan.generated Settings.default).Picks "/" (.listed Scan.listedFiles)
        Scan.listedFiles f.files := by
  have plain : (Scope.ofSettings Scan.generated Settings.default).Plain "/" := by
    unfold Scope.Plain
    decide +kernel
  have told : (Trace.started (answered Scan.followed Scan.listedScan.run).1).head? =
      some (⟨"first"⟩, [{ path := "/p/src/b.py" }, { path := "/p/src/a.PY" }]) := by
    decide +kernel
  have called : Begun Scan.listedScan (.listed Scan.listedFiles)
      (.ofSettings Scan.generated Settings.default) :=
    .called Scan.generated Settings.default "/" .provided none (.files Scan.listedFiles)
  rcases called.starts_in_scope plain (runs_answered Scan.followed Scan.listedScan.run) with
    ⟨_, _, _, _, -, -, -, silent⟩ | ⟨f, trace, first, -, candidates, rfl, picks⟩
  · rw [silent] at told
    cases told
  · refine ⟨f, trace, ?_, picks⟩
    rw [told, eq_comm, Option.map_eq_some_iff] at first
    obtain ⟨l, -, same⟩ := first
    exact (Prod.mk.inj same).2

end LiveCheck
