import Mathlib.Data.List.Nodup
import LiveCheck.Proofs.Discovery
import LiveCheck.Proofs.Scan.Lines
import LiveCheck.Proofs.Scan.Snapshots
import LiveCheck.Proofs.Scan.Telling

/-!
# Scans of roots, from the tree to the report

A scan of roots hands the tool one path for every file: the path of the file, or the path of a
copy.  The tool prints lines about these paths, in whatever order, and other lines between them.
In a workspace no two of the handed paths are the same, so every line finds its file again.
`RootScan.report_eq` says what the report consists of then, and that it depends on nothing but the
files, their texts and what was printed about each of them.
-/

namespace LiveCheck

open Program Attribution ReportLine

/-- The diagnostic of a file with this text for a tail behind its path. -/
def ReportLine.Tail.diagnostic (tail : Tail) (setup : Setup) (text : Option DocumentText)
    (h : Handle) : Except Fault Diagnostic :=
  diagnosticOf setup text h (tail.parts [])

namespace Scan

/-- A line of the tool: a tail behind the path that was handed for a file, or any other line. -/
inductive Said where
  | about (s : Snapshot) (tail : Tail)
  | other (line : String)

namespace Said

/-- The line as it is printed. -/
def line (cwd : String) : Said → String
  | about s tail => tail.lineAt (s.absolutePath cwd)
  | other line => line

/-- The tail of a line about a file. -/
def tailFor? (h : Handle) : Said → Option Tail
  | about s tail => if s.handle = h then some tail else none
  | other _ => none

/-- A line about a file says something about a file of the scan, and any other line is no report
or names a path that was not handed to the tool. -/
def Fits {scan : Scan} {report : Report} (c : Success scan report) : Said → Prop
  | about s tail => s ∈ c.made ∧ Text.allBlank tail.message = false
  | other line => ∀ parts, parse? (Text.trim line.toList) = some parts →
      scan.setup.resolvePath (String.ofList parts.path) ∉ c.mapping.keys

end Said

/-- A scan of roots that ends with a success, in surroundings with a workspace.  No copy has the
path of a file of the scan, and no handed path holds a colon. -/
structure RootScan (scan : Scan) (report : Report) where
  course : Success scan report
  roots : List Root
  filter : Filter
  targets : scan.targets = .roots roots
  picker : scan.picker = .rule filter
  first : Workspace
  reading : Workspace
  last : Workspace
  cwd : first.cwd = scan.cwd
  before : Follows first course.before reading
  after : Follows reading (course.reporting ++ course.after) last
  fresh : ∀ s ∈ course.made, s.temporary = true → ∀ h ∈ course.files, s.path ≠ h.path
  plain : ∀ s ∈ course.made, ':' ∉ (s.absolutePath scan.cwd).toList
  said : List Said
  lines : course.lines = said.map (Said.line scan.cwd)
  fits : ∀ x ∈ said, x.Fits course

/-- A scan that starts well resolves its files, and tells these to the listeners of the
registry. -/
theorem runs_start_ok {scan : Scan} {t : Trace} {files : List Handle}
    (run : Runs scan.start.attempt t (.ok files)) :
    ∃ t₁ t₂ ls t₃, t = t₁ ++ (t₂ ++ (Trace.registering ls ++ t₃)) ∧
      Runs scan.resolveFiles.attempt t₂ (.ok files) ∧
      Runs (tellStart files ls).attempt t₃ (.ok ()) := by
  rcases runs_start run with ⟨fault, _, failed, -, -⟩ |
    ⟨search, found, ls, telling, ending, rfl, resolve, tell, ended⟩
  · cases failed
  · cases ending with
    | error fault => cases ended
    | ok _ =>
      cases ended
      exact ⟨opened, search, ls, telling, rfl, resolve, tell⟩

/-! ### Successes in surroundings with a workspace -/

namespace Success

variable {scan : Scan} {report : Report}

/-- The snapshots of a scan are apart in a workspace with its current directory. -/
theorem exists_apart (c : Success scan report) {w w' : Workspace}
    (follows : Follows w c.before w') :
    ∃ v : Workspace, v.cwd = w.cwd ∧ Snapshot.Apart v c.files c.made := by
  obtain ⟨id, files, made, lines, starting, making, printing, reporting, deleting, telling, told,
    start, work, delete, announced⟩ := c
  unfold before at follows
  dsimp only at follows ⊢
  cases follows with
  | cons head tail =>
    obtain ⟨u, starts, rest⟩ := Follows.append_iff.1 tail
    obtain ⟨v, makes, -⟩ := Follows.append_iff.1 rest
    cases work with
    | nothing => exact ⟨w, rfl, rfl, by simp, by simp, by simp, List.nodup_nil⟩
    | checked make print parse =>
      cases makes with
      | @cons _ u' _ _ _ enters makes =>
        refine ⟨u', ?_, Snapshot.apart_of_makeAll make makes⟩
        rw [enters.cwd_eq, starts.cwd_eq, head.cwd_eq]

/-- While lines are attributed nothing is asked that could change a workspace. -/
theorem reporting_about (c : Success scan report) :
    Trace.About [.phase, .token, .lock, .text] c.reporting := by
  obtain ⟨id, files, made, lines, starting, making, printing, reporting, deleting, telling, told,
    start, work, delete, announced⟩ := c
  cases work with
  | nothing => exact fun _ h => (List.not_mem_nil h).elim
  | checked make print parse => exact parse.about (report_asks _ _ _ _)

/-- A success is put together from its stages, each of which begins with the workspace that the one
before has left. -/
theorem exists_of_ends {id : String} {h : Handle} {rest : List Handle} {made : List Snapshot}
    {lines : List String} {told : Except Fault Unit} {w₀ w₁ w₂ w₃ w₄ w₅ w₆ : Workspace}
    (start : Ends w₀ scan.start.attempt (.ok (h :: rest)) w₁)
    (make : Ends w₁ (Snapshot.makeAll scan.settings.scratchDir true (h :: rest)) (made, .ok ()) w₂)
    (print : Ends w₂ (scan.print (Snapshot.mapping scan.cwd made).keys).attempt (.ok lines) w₃)
    (parse : Ends w₃ (scan.report id (Snapshot.mapping scan.cwd made) lines).attempt
      (.ok report) w₄)
    (delete : Ends w₄ (Snapshot.deleteAll made).attempt (.ok ()) w₅)
    (tell : Ends w₅ (announce (.success report)).attempt told w₆) :
    ∃ c : Success scan report, c.files = h :: rest ∧ c.made = made ∧ c.lines = lines ∧
      Follows w₀ c.before w₃ ∧ Follows w₃ (c.reporting ++ c.after) w₆ := by
  obtain ⟨t₁, start, starts⟩ := start
  obtain ⟨t₂, make, makes⟩ := make
  obtain ⟨t₃, print, prints⟩ := print
  obtain ⟨t₄, parse, parses⟩ := parse
  obtain ⟨t₅, delete, deletes⟩ := delete
  obtain ⟨t₆, tell, tells⟩ := tell
  refine ⟨⟨id, _, made, lines, t₁, _, t₃, t₄, t₅, t₆, told, start, .checked make print parse,
    delete, tell⟩, rfl, rfl, rfl, ?_, ?_⟩
  · refine .cons (.quiet (by simp [Request.concern])) (Follows.append_iff.2 ⟨w₁, starts, ?_⟩)
    exact .cons (.quiet (by simp [Request.concern])) (Follows.append_iff.2 ⟨w₂, makes, prints⟩)
  · refine Follows.append_iff.2 ⟨w₄, parses, Follows.append_iff.2 ⟨w₅, deletes, ?_⟩⟩
    refine .cons (.quiet (by simp [Request.concern])) (Follows.append_iff.2 ⟨w₆, tells, ?_⟩)
    exact .cons (.quiet (by simp [Request.concern])) (.nil w₆)

end Success

namespace RootScan

variable {scan : Scan} {report : Report}

/-- What was printed about a file. -/
def tails (c : RootScan scan report) (h : Handle) : List Tail := c.said.filterMap (Said.tailFor? h)

/-! ### Files and paths -/

/-- The files of the scan stand there once, with normal paths, and nothing but the path tells them
apart. -/
theorem files_spec (c : RootScan scan report) :
    c.course.files.Nodup ∧ ∀ h ∈ c.course.files, ∃ path, h = Handle.forPath scan.cwd path := by
  obtain ⟨t₁, t₂, ls, t₃, starting, resolve, -⟩ := runs_start_ok c.course.start
  refine known_resolveFiles c.targets c.picker resolve fun e he path h same => ⟨path, ?_⟩
  have there : ⟨.resolve path, .ok (some h)⟩ ∈ c.course.before := by
    refine List.mem_cons_of_mem _ (List.mem_append_left _ ?_)
    rw [starting, ← same]
    exact List.mem_append_right _ (List.mem_append_left _ he)
  rw [← c.cwd]
  exact c.before.resolved there

/-- The snapshots of the scan are apart in a workspace with its current directory. -/
theorem exists_apart (c : RootScan scan report) :
    ∃ w : Workspace, w.cwd = scan.cwd ∧ Snapshot.Apart w c.course.files c.course.made := by
  obtain ⟨w, cwd, apart⟩ := c.course.exists_apart c.before
  exact ⟨w, cwd.trans c.cwd, apart⟩

/-- The path of a snapshot is normal as it is. -/
theorem absolutePath_eq (c : RootScan scan report) {s : Snapshot} (hs : s ∈ c.course.made) :
    s.absolutePath scan.cwd = s.path := by
  obtain ⟨w, cwd, apart⟩ := c.exists_apart
  unfold Snapshot.absolutePath
  rw [← cwd]
  by_cases is : s.temporary = true
  · exact apart.normal s hs is
  · have file : s.handle ∈ c.course.files := apart.handles ▸ List.mem_map_of_mem hs
    obtain ⟨path, known⟩ := c.files_spec.2 s.handle file
    rw [apart.itself s hs (by simpa using is), known]
    exact Path.normalize_normalize _ _ _

/-- Two snapshots with one path are one snapshot. -/
theorem eq_of_path_eq (c : RootScan scan report) {s s' : Snapshot} (hs : s ∈ c.course.made)
    (hs' : s' ∈ c.course.made) (same : s.path = s'.path) : s = s' := by
  obtain ⟨w, cwd, apart⟩ := c.exists_apart
  obtain ⟨nodup, known⟩ := c.files_spec
  have file {s : Snapshot} (hs : s ∈ c.course.made) : s.handle ∈ c.course.files :=
    apart.handles ▸ List.mem_map_of_mem hs
  cases is : s.temporary <;> cases is' : s'.temporary
  · -- Both are read where they are: the paths of different files are different.
    obtain ⟨p, hp⟩ := known s.handle (file hs)
    obtain ⟨p', hp'⟩ := known s'.handle (file hs')
    have handles : s.handle = s'.handle := by
      rw [apart.itself s hs is, apart.itself s' hs' is'] at same
      rw [hp, hp'] at same ⊢
      exact congrArg (Handle.mk · .workspace) same
    exact List.inj_on_of_nodup_map (apart.handles ▸ nodup) hs hs' handles
  · have clash := c.fresh s' hs' is' s.handle (file hs)
    rw [← same, apart.itself s hs is] at clash
    exact absurd rfl clash
  · have clash := c.fresh s hs is s'.handle (file hs')
    rw [same, apart.itself s' hs' is'] at clash
    exact absurd rfl clash
  · exact List.inj_on_of_nodup_map apart.distinct (List.mem_filter.2 ⟨hs, is⟩)
      (List.mem_filter.2 ⟨hs', is'⟩) same

/-- No path is handed to the tool twice. -/
theorem nodup_absolutePath (c : RootScan scan report) :
    (c.course.made.map (Snapshot.absolutePath scan.cwd)).Nodup := by
  obtain ⟨w, cwd, apart⟩ := c.exists_apart
  refine List.Nodup.map_on (fun s hs s' hs' same => ?_)
    (List.Nodup.of_map Snapshot.handle (apart.handles ▸ c.files_spec.1))
  rw [c.absolutePath_eq hs, c.absolutePath_eq hs'] at same
  exact c.eq_of_path_eq hs hs' same

/-- The tool is handed one path for every file. -/
theorem mapping_eq (c : RootScan scan report) :
    c.course.mapping = c.course.made.map fun s => (s.absolutePath scan.cwd, s.handle) := by
  refine Table.ofPairs_of_nodup ?_
  rw [List.map_map]
  exact c.nodup_absolutePath

/-- All files of the scan start without diagnostics. -/
theorem noProblems_eq (c : RootScan scan report) :
    noProblems c.course.mapping = c.course.files.map fun h => (h, []) := by
  obtain ⟨w, cwd, apart⟩ := c.exists_apart
  unfold noProblems
  rw [c.mapping_eq, ← apart.handles, List.map_map, List.map_map]
  refine Table.ofPairs_of_nodup ?_
  rw [List.map_map]
  exact apart.handles ▸ c.files_spec.1

/-! ### Lines -/

/-- A line finds its file again, and no other file. -/
theorem partsFor?_line (c : RootScan scan report) {x : Said} (hx : x ∈ c.said) (h : Handle) :
    (∃ tail path, x.tailFor? h = some tail ∧
        partsFor? scan.setup c.course.mapping h (x.line scan.cwd) = some (tail.parts path)) ∨
      x.tailFor? h = none ∧ partsFor? scan.setup c.course.mapping h (x.line scan.cwd) = none := by
  have fits := c.fits x hx
  cases x with
  | about s tail =>
    obtain ⟨hs, said⟩ := fits
    have found : c.course.mapping.get? (s.absolutePath scan.cwd) = some s.handle := by
      refine Table.get?_of_mem (Table.nodup_keys_ofPairs _) ?_
      change _ ∈ c.course.mapping
      rw [c.mapping_eq]
      exact List.mem_map.2 ⟨s, hs, rfl⟩
    have target : target? scan.setup c.course.mapping (tail.lineAt (s.absolutePath scan.cwd)) =
        some (s.handle, tail.parts (s.absolutePath scan.cwd).toList) := by
      rw [target?_lineAt (Snapshot.normalize_absolutePath _ s) (c.plain s hs) said, found]
      rfl
    unfold partsFor? Said.tailFor? Said.line
    dsimp only
    rw [target]
    by_cases same : s.handle = h
    · exact Or.inl ⟨tail, _, if_pos same, if_pos same⟩
    · exact Or.inr ⟨if_neg same, if_neg same⟩
  | other line =>
    refine Or.inr ⟨rfl, partsFor?_of_target?_none ?_ h⟩
    unfold target? Said.line
    dsimp only
    split
    · rfl
    · next parts read =>
      rw [Table.get?_eq_none (fits parts read)]
      rfl

/-- What is printed about a file becomes its diagnostics, whatever is printed in between. -/
theorem mapM_partsFor? (c : RootScan scan report) (text : Option DocumentText) (h : Handle) :
    (c.course.lines.filterMap (partsFor? scan.setup c.course.mapping h)).mapM
        (diagnosticOf scan.setup text h) =
      (c.tails h).mapM fun tail => tail.diagnostic scan.setup text h := by
  have step (said : List Said) (sub : ∀ x ∈ said, x ∈ c.said) :
      ((said.map (Said.line scan.cwd)).filterMap
          (partsFor? scan.setup c.course.mapping h)).mapM (diagnosticOf scan.setup text h) =
        (said.filterMap (Said.tailFor? h)).mapM fun tail => tail.diagnostic scan.setup text h := by
    induction said with
    | nil => rfl
    | cons x rest ih =>
      have tail := ih fun y hy => sub y (List.mem_cons_of_mem _ hy)
      rw [List.map_cons]
      rcases c.partsFor?_line (sub x List.mem_cons_self) h with
        ⟨own, path, mine, parts⟩ | ⟨mine, parts⟩
      · rw [List.filterMap_cons_some parts, List.filterMap_cons_some mine, List.mapM_cons,
          List.mapM_cons, tail]
        rfl
      · rw [List.filterMap_cons_none parts, List.filterMap_cons_none mine, tail]
  rw [c.lines]
  exact step c.said fun _ hx => hx

/-! ### The report -/

/-- The texts that are read for offsets are those that the editor shows when lines are
attributed. -/
theorem reads (c : RootScan scan report) : Reads c.reading.text c.course.reporting := by
  obtain ⟨w, reports, -⟩ := Follows.append_iff.1 c.after
  refine (reports.reads ?_).2
  intro e he
  have about := c.course.reporting_about e he
  revert about
  cases e.request.concern <;> decide

/-- The report has the files of the scan in their order.  Every file has the diagnostics of what was
printed about it, in the order in which it was printed. -/
theorem exists_problems_eq (c : RootScan scan report) :
    ∃ found : Handle → List Diagnostic,
      report.problems = c.course.files.map (fun h => (h, found h)) ∧
      ∀ h, (c.tails h).mapM
        (fun tail => tail.diagnostic scan.setup (shownText (c.reading.text h)) h) =
          .ok (found h) := by
  obtain ⟨found, problems, each⟩ := c.course.attributes c.reads
  refine ⟨found, ?_, fun h => ?_⟩
  · rw [problems, c.noProblems_eq, List.map_map]
    rfl
  · rw [← c.mapM_partsFor?]
    exact each h

/-- In a scan of roots that succeeds, the files that are told to the listeners are those for which
the tool is handed one path each, and whatever it prints about the paths becomes the diagnostics of
their files.  Two scans with the same files and texts and the same tails for every file have the
same problems, whatever copies they made and in whatever order the lines about different files were
printed. -/
theorem report_eq (c : RootScan scan report) :
    (∃ t ls t', c.course.starting = t ++ (Trace.registering ls ++ t') ∧
      Runs (tellStart c.course.files ls).attempt t' (.ok ())) ∧
    c.course.made.map Snapshot.handle = c.course.files ∧
    c.course.mapping.keys = c.course.made.map (Snapshot.absolutePath scan.cwd) ∧
    (∃ found : Handle → List Diagnostic,
      report.problems = c.course.files.map (fun h => (h, found h)) ∧
      ∀ h, (c.tails h).mapM
        (fun tail => tail.diagnostic scan.setup (shownText (c.reading.text h)) h) =
          .ok (found h)) ∧
    ∀ {scan' : Scan} {report' : Report} (c' : RootScan scan' report'), scan'.setup = scan.setup →
      c'.course.files = c.course.files →
      (∀ h ∈ c.course.files, c'.reading.text h = c.reading.text h) →
      (∀ h ∈ c.course.files, c'.tails h = c.tails h) → report'.problems = report.problems := by
  obtain ⟨w, cwd, apart⟩ := c.exists_apart
  obtain ⟨found, problems, each⟩ := c.exists_problems_eq
  obtain ⟨t₁, t₂, ls, t₃, starting, -, told⟩ := runs_start_ok c.course.start
  refine ⟨⟨t₁ ++ t₂, ls, t₃, by rw [starting, List.append_assoc], told⟩, apart.handles, ?_,
    ⟨found, problems, each⟩, fun c' setup files texts tails => ?_⟩
  · rw [c.mapping_eq]
    unfold Table.keys
    rw [List.map_map]
    rfl
  · obtain ⟨found', problems', each'⟩ := c'.exists_problems_eq
    rw [problems, problems', files]
    refine List.map_congr_left fun h hh => ?_
    have same : (Except.ok (found' h) : Except Fault _) = .ok (found h) := by
      rw [← each h, ← each' h, setup, texts h hh, tails h hh]
    rw [Except.ok.inj same]

end RootScan

/-! ### Two scans of one tree -/

/-- An error in the first column of this line. -/
def errorOn (digit : Char) (h : Text.isDigit digit = true) : Tail where
  line := [digit]
  column := some ['1']
  gap := [' ']
  severity := "error".toList
  blank := ' '
  message := "boom".toList
  line_digits := ⟨by simp, by simpa using h⟩
  column_digits := fun digits hd =>
    Option.some.inj hd ▸ ⟨by decide, List.all_eq_true.1 (by decide +kernel)⟩
  gap_blank := ⟨by decide, List.all_eq_true.1 (by decide +kernel)⟩
  severity_word := ⟨by decide, List.all_eq_true.1 (by decide +kernel)⟩
  blank_isBlank := by decide +kernel
  message_oneLine := by decide

/-- An error on the first line. -/
def errorOnFirst : Tail := errorOn '1' (by decide +kernel)

/-- An error on the second line. -/
def errorOnSecond : Tail := errorOn '2' (by decide +kernel)

/-- A scan of two files for which somebody else runs the tool. -/
def twoRoots : Scan where
  project := Project.make "/" "/p" [] []
  settings := Settings.default
  targets := .roots [.path "/p/a.py", .path "/p/b.py"]
  picker := .rule (Filter.make (Project.make "/" "/p" [] []) [] false)
  runner := .provided
  cwd := "/"

/-- Two files, the second of which is edited, and a place for copies that was used before or not.
These entries are on the disk besides. -/
def twoFiles (used : Bool) (more : Table Place Entry) (made : Nat) : Workspace where
  disk := { entries := [([['p']], .directory), (["tmp".toList], .directory),
    ([['p'], "a.py".toList], .file [0x78]), ([['p'], "b.py".toList], .file [0x79])] ++ more }
  documents := { defaultEncoding := "utf-8", buffers := [("/p/b.py", "y\nz")], encodings := [] }
  cwd := "/"
  temporaryDirectory := "/tmp"
  nextTemporary := (if used then 7 else 0) + made

/-- The workspace before the scan. -/
def twoBefore (used : Bool) : Workspace := twoFiles used [] 0

/-- The workspace when the snapshots are made. -/
def twoCopied (used : Bool) : Workspace :=
  twoFiles used [(["tmp".toList, (if used then "b_00000007.py" else "b_00000000.py").toList],
    .file [0x79, 0x0a, 0x7a])] 1

/-- The handles of the two files. -/
def twoHandles : List Handle := [{ path := "/p/a.py" }, { path := "/p/b.py" }]

/-- The snapshot of the first file. -/
def firstSnapshot : Snapshot :=
  { handle := { path := "/p/a.py" }, path := "/p/a.py", temporary := false }

/-- The snapshot of the second file. -/
def secondSnapshot (used : Bool) : Snapshot :=
  { handle := { path := "/p/b.py" }
    path := if used then "/tmp/b_00000007.py" else "/tmp/b_00000000.py"
    temporary := true }

/-- What the tool says about the two files: one error about the first and two about the second,
these after the other one or around it. -/
def twoSaid (used : Bool) : List Said :=
  if used then [.about (secondSnapshot used) errorOnFirst, .other "2 files",
    .about firstSnapshot errorOnFirst, .about (secondSnapshot used) errorOnSecond]
  else [.about firstSnapshot errorOnFirst, .about (secondSnapshot used) errorOnFirst,
    .about (secondSnapshot used) errorOnSecond]

/-- The tool prints these lines, and nobody else says anything. -/
def saying (lines : List String) : (r : Request) → r.Reply
  | .invoke _ _ => .ok lines
  | r => r.nothing

/-- The diagnostic of one of the errors. -/
def twoDiagnostic (path : String) (line offset : Int) : Diagnostic where
  file := { path }
  line := line
  column := 1
  severity := .error
  message := "boom"
  code := none
  offset := some offset

/-- The report of the scan with this name. -/
def twoReport (id : String) : Report where
  id := id
  problems := [({ path := "/p/a.py" }, [twoDiagnostic "/p/a.py" 1 0]),
    ({ path := "/p/b.py" }, [twoDiagnostic "/p/b.py" 1 0, twoDiagnostic "/p/b.py" 2 2])]

/-- The scan finds the two files. -/
theorem ends_start_twoRoots (used : Bool) :
    Ends (twoBefore used) twoRoots.start.attempt (.ok twoHandles) (twoBefore used) := by
  have sorted : Discovered.sorted { files := twoHandles } = twoHandles := by
    unfold Discovered.sorted
    rw [List.mergeSort_of_pairwise]
    decide +kernel
  have discover : Ends (twoBefore used)
      (Discovery.flatten "/" true [.path "/p/a.py", .path "/p/b.py"]).attempt (.ok twoHandles)
      (twoBefore used) := by
    refine Ends.bind (v := twoBefore used) (x := { files := twoHandles }) ?_ ?_
    · cases used <;> exact ends_of_disk Request.nothing ⟨rfl, rfl, rfl⟩ (by decide +kernel)
    · have last := ends_pure (twoBefore used) (Discovered.sorted { files := twoHandles })
      rwa [sorted] at last ⊢
  have resolve : Ends (twoBefore used) twoRoots.resolveFiles.attempt (.ok twoHandles)
      (twoBefore used) :=
    discover.bind (ends_of_disk Request.nothing ⟨rfl, rfl, rfl⟩ (by cases used <;> decide +kernel))
  unfold start
  refine Ends.bind (v := twoBefore used) (x := ()) (ends_record Request.nothing rfl) ?_
  refine Ends.bind (v := twoBefore used) (x := ()) (ends_record Request.nothing rfl) ?_
  refine resolve.bind ?_
  exact ends_record Request.nothing rfl

/-- The scan succeeds with these snapshots, lines and report. -/
theorem exists_success_twoRoots (id : String) (used : Bool) :
    ∃ (c : Success twoRoots (twoReport id)) (last : Workspace), c.files = twoHandles ∧
      c.made = [firstSnapshot, secondSnapshot used] ∧
      c.lines = (twoSaid used).map (Said.line "/") ∧
      Follows (twoBefore used) c.before (twoCopied used) ∧
      Follows (twoCopied used) (c.reporting ++ c.after) last := by
  have make : Ends (twoBefore used) (Snapshot.makeAll none true twoHandles)
      ([firstSnapshot, secondSnapshot used], .ok ()) (twoCopied used) := by
    cases used <;> exact ends_of_disk Request.nothing ⟨rfl, rfl, rfl⟩ (by decide +kernel)
  have print : Ends (twoCopied used)
      (twoRoots.print (Snapshot.mapping "/" [firstSnapshot, secondSnapshot used]).keys).attempt
      (.ok ((twoSaid used).map (Said.line "/"))) (twoCopied used) :=
    ends_of_disk (saying ((twoSaid used).map (Said.line "/"))) ⟨rfl, rfl, rfl⟩
      (by cases used <;> decide +kernel)
  have parse : Ends (twoCopied used) (twoRoots.report id
      (Snapshot.mapping "/" [firstSnapshot, secondSnapshot used])
      ((twoSaid used).map (Said.line "/"))).attempt (.ok (twoReport id)) (twoCopied used) := by
    refine Ends.bind (v := twoCopied used) (x := ()) (ends_record Request.nothing rfl) ?_
    refine Ends.bind (v := twoCopied used) (x := ()) (ends_record Request.nothing rfl) ?_
    refine Ends.bind (v := twoCopied used) (x := (twoReport "").problems) ?_ (ends_pure _ _)
    exact ends_of_disk Request.nothing ⟨rfl, rfl, rfl⟩ (by cases used <;> decide +kernel)
  have delete := ends_record (w := twoCopied used) (a := .ok ()) Request.nothing
    (p := (Snapshot.deleteAll [firstSnapshot, secondSnapshot used]).attempt)
    (Prod.ext (by cases used <;> decide +kernel) rfl)
  obtain ⟨c, files, made, lines, before, after⟩ :=
    Success.exists_of_ends (ends_start_twoRoots used) make print parse delete
      (ends_record Request.nothing rfl)
  exact ⟨c, _, files, made, lines, before, after⟩

/-- It is a scan of roots in surroundings with a workspace. -/
theorem exists_rootScan_twoRoots (id : String) (used : Bool) :
    ∃ c : RootScan twoRoots (twoReport id), c.course.files = twoHandles ∧
      c.course.made = [firstSnapshot, secondSnapshot used] ∧ c.reading = twoCopied used ∧
      c.said = twoSaid used := by
  obtain ⟨c, last, files, made, lines, before, after⟩ := exists_success_twoRoots id used
  refine ⟨{
    course := c
    roots := _
    filter := _
    targets := rfl
    picker := rfl
    first := twoBefore used
    reading := twoCopied used
    last
    cwd := rfl
    before
    after
    fresh := by
      rw [made, files]
      cases used <;> decide +kernel
    plain := by
      rw [made]
      cases used <;> decide +kernel
    said := twoSaid used
    lines
    fits := fun x hx => ?_ }, files, made, rfl, rfl⟩
  have first {s : Snapshot} (hs : s ∈ [firstSnapshot, secondSnapshot used]) :
      (Said.about s errorOnFirst).Fits c := ⟨made ▸ hs, by decide +kernel⟩
  have second {s : Snapshot} (hs : s ∈ [firstSnapshot, secondSnapshot used]) :
      (Said.about s errorOnSecond).Fits c := ⟨made ▸ hs, by decide +kernel⟩
  have other : (Said.other "2 files").Fits c := by
    intro parts read
    have none : parse? (Text.trim "2 files".toList) = none := by decide +kernel
    rw [none] at read
    cases read
  cases used <;>
    simp only [twoSaid, if_true, Bool.false_eq_true, if_false, List.mem_cons, List.not_mem_nil,
      or_false] at hx
  · rcases hx with rfl | rfl | rfl
    · exact first (by simp)
    · exact first (by simp)
    · exact second (by simp)
  · rcases hx with rfl | rfl | rfl | rfl
    · exact first (by simp)
    · exact other
    · exact first (by simp)
    · exact second (by simp)

/-- The second of two scans makes its copy under another name, and the lines about the second file
are printed around the line about the first one.  The problems are the same. -/
theorem report_eq_twoRoots :
    ∃ (c : RootScan twoRoots (twoReport "one")) (c' : RootScan twoRoots (twoReport "two")),
      c'.course.made ≠ c.course.made ∧ c'.said.length ≠ c.said.length ∧
      c.course.made.map Snapshot.handle = twoHandles ∧
      (twoReport "two").problems = (twoReport "one").problems := by
  obtain ⟨c, files, made, reading, said⟩ := exists_rootScan_twoRoots "one" false
  obtain ⟨c', files', made', reading', said'⟩ := exists_rootScan_twoRoots "two" true
  refine ⟨c, c', ?_, ?_, c.report_eq.2.1.trans files,
    c.report_eq.2.2.2.2 c' rfl (files'.trans files.symm) ?_ ?_⟩
  · rw [made, made']
    decide +kernel
  · rw [said, said']
    decide +kernel
  · rw [files, reading, reading']
    decide +kernel
  · unfold RootScan.tails
    rw [files, said, said']
    intro h hh
    simp only [twoHandles, List.mem_cons, List.not_mem_nil, or_false] at hh
    rcases hh with rfl | rfl <;> rfl

end Scan

end LiveCheck
