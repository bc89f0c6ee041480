import LiveCheck.Proofs.Attribution.Projection
import LiveCheck.Proofs.Diagnostic.Listing
import LiveCheck.Proofs.Scan.Keys
import LiveCheck.Proofs.Scan.Roots

/-!
# The diagnostics of a scan in the order of the tool

A report keeps diagnostics file by file.  The tool prints them in another order, line by line, and
nothing of this order is lost within a file: `Success.Reports` says which diagnostics the lines of
the tool have, one after the other, and `Success.exists_reports` that the report consists of them,
taken file by file.  Where files are told apart by their paths, sorting the report therefore makes
a listing of what the tool reported (`Success.listing_sort`).
-/

namespace LiveCheck

open Program

namespace Attribution

/-! ### All lines that are about files -/

variable {setup : Setup} {text : Handle → Except Fault String}

/-- The diagnostic of a line that is about a file. -/
def diagnosticAbout (setup : Setup) (text : Handle → Except Fault String)
    (about : Handle × ReportLine) : Except Fault Diagnostic :=
  diagnosticOf setup (shownText (text about.1)) about.1 about.2

/-- The diagnostic of a line is one of the file that the line is about. -/
theorem file_of_diagnosticAbout {about : Handle × ReportLine} {d : Diagnostic}
    (made : diagnosticAbout setup text about = .ok d) : d.file = about.1 :=
  (diagnosticOf_eq_ok_iff.1 made).2.2.2.1

/-- The lines about one file are those of all lines about files that are about this one. -/
theorem mapM_partsFor? (files : Table String Handle) (h : Handle) (lines : List String) :
    (lines.filterMap (partsFor? setup files h)).mapM
        (diagnosticOf setup (shownText (text h)) h) =
      ((lines.filterMap (target? setup files)).filter (·.1 = h)).mapM
        (diagnosticAbout setup text) := by
  induction lines with
  | nil => rfl
  | cons line rest ih =>
    cases target : target? setup files line with
    | none =>
      rw [List.filterMap_cons_none (partsFor?_of_target?_none target h),
        List.filterMap_cons_none target, ih]
    | some about =>
      obtain ⟨k, parts⟩ := about
      rw [List.filterMap_cons_some target]
      by_cases same : k = h
      · subst same
        rw [List.filterMap_cons_some (partsFor?_eq_some_iff.2 target),
          List.filter_cons_of_pos (by simp), List.mapM_cons, List.mapM_cons, ih]
        rfl
      · have elsewhere : partsFor? setup files h line = none := by
          unfold partsFor?
          rw [target]
          exact if_neg same
        rw [List.filterMap_cons_none elsewhere, List.filter_cons_of_neg (by simpa using same), ih]

variable {α β ε : Type} {f : α → Except ε β} {as : List α} {bs : List β}

/-- A function that succeeds on every element of a list succeeds on the list. -/
theorem exists_mapM_ok (each : ∀ a ∈ as, ∃ b, f a = .ok b) : ∃ bs, as.mapM f = .ok bs := by
  induction as with
  | nil => exact ⟨[], rfl⟩
  | cons a rest ih =>
    obtain ⟨⟨b, first⟩, others⟩ := List.forall_mem_cons.1 each
    obtain ⟨bs, later⟩ := ih others
    refine ⟨b :: bs, ?_⟩
    rw [List.mapM_cons, first, later]
    rfl

/-- The results of a part of a list are the same part of the results. -/
theorem mapM_filter_ok {p : α → Bool} {q : β → Bool} (all : as.mapM f = .ok bs)
    (agree : ∀ a b, f a = .ok b → p a = q b) : (as.filter p).mapM f = .ok (bs.filter q) := by
  induction as generalizing bs with
  | nil =>
    cases all
    rfl
  | cons a rest ih =>
    rw [List.mapM_cons] at all
    obtain ⟨b, first, all⟩ := bind_eq_ok_iff.1 all
    obtain ⟨bs', later, all⟩ := bind_eq_ok_iff.1 all
    cases all
    have both := agree a b first
    cases chosen : p a with
    | true =>
      rw [List.filter_cons_of_pos chosen, List.filter_cons_of_pos (both ▸ chosen), List.mapM_cons,
        first, ih later]
      rfl
    | false =>
      rw [List.filter_cons_of_neg (by simp [chosen]),
        List.filter_cons_of_neg (by simp [← both, chosen]), ih later]

end Attribution

open Attribution

namespace Scan.Success

variable {scan : Scan} {report : Report}

/-! ### Reported diagnostics -/

/-- These are the diagnostics that the tool reported about files of the scan: one for each of its
lines that is about a file, in the order of the lines, made from the line and the text that the
file has while lines are attributed. -/
def Reports (c : Success scan report) (ds : List Diagnostic) : Prop :=
  ∃ text, Reads text c.reporting ∧
    (c.lines.filterMap (target? scan.setup c.mapping)).mapM
      (diagnosticAbout scan.setup text) = .ok ds

variable {c : Success scan report} {ds : List Diagnostic}

/-- The files of a report are those behind the handed paths. -/
theorem mem_files_of_get? (c : Success scan report) {path : String} {h : Handle}
    (found : c.mapping.get? path = some h) : h ∈ report.files := by
  obtain ⟨s, last, -, handle⟩ := Snapshot.get?_mapping.1 found
  exact c.mem_files.2 ⟨s, last, handle⟩

/-- Every line that is about a file has its diagnostic among the reported ones. -/
theorem Reports.exists_of_target? (reports : c.Reports ds) {line : String} {h : Handle}
    {parts : ReportLine} (mem : line ∈ c.lines)
    (target : target? scan.setup c.mapping line = some (h, parts)) :
    ∃ d ∈ ds, d.severity = .parse (some (String.ofList parts.severity)) := by
  obtain ⟨text, -, all⟩ := reports
  obtain ⟨d, there, made⟩ := exists_of_mapM_ok all (List.mem_filterMap.2 ⟨line, mem, target⟩)
  exact ⟨d, there, (diagnosticOf_eq_ok_iff.1 made).2.2.2.2.1⟩

/-- Every reported diagnostic is that of a line about its file. -/
theorem Reports.exists_target? (reports : c.Reports ds) {d : Diagnostic} (mem : d ∈ ds) :
    ∃ line ∈ c.lines, ∃ parts, target? scan.setup c.mapping line = some (d.file, parts) ∧
      d.severity = .parse (some (String.ofList parts.severity)) := by
  obtain ⟨text, -, all⟩ := reports
  obtain ⟨⟨h, parts⟩, found, made⟩ := mem_of_mapM_ok all mem
  obtain ⟨line, there, target⟩ := List.mem_filterMap.1 found
  obtain ⟨-, -, -, rfl, severity, -⟩ := diagnosticOf_eq_ok_iff.1 made
  exact ⟨line, there, parts, target, severity⟩

/-- The files of reported diagnostics are files of the report. -/
theorem Reports.file_mem (reports : c.Reports ds) {d : Diagnostic} (mem : d ∈ ds) :
    d.file ∈ report.files := by
  obtain ⟨line, -, parts, target, -⟩ := reports.exists_target? mem
  unfold target? at target
  split at target
  · cases target
  · obtain ⟨h, found, same⟩ := Option.map_eq_some_iff.1 target
    cases same
    exact c.mem_files_of_get? found

/-- No file is in a report twice. -/
theorem nodup_files (c : Success scan report) : report.files.Nodup := by
  obtain ⟨text, reads⟩ := c.exists_reads
  obtain ⟨found, problems, -⟩ := c.attributes reads
  unfold Report.files Table.keys
  rw [problems, List.map_map]
  exact Table.nodup_keys_ofPairs _

/-- The report of a scan consists of what the tool reported, file by file. -/
theorem exists_reports (c : Success scan report) :
    ∃ ds, c.Reports ds ∧ report.diagnostics = byKey Diagnostic.file report.files ds := by
  obtain ⟨text, reads⟩ := c.exists_reads
  obtain ⟨found, problems, each⟩ := c.attributes reads
  -- every line about a file has a diagnostic, as one of the lines about this file
  have every : ∀ about ∈ c.lines.filterMap (target? scan.setup c.mapping),
      ∃ d, diagnosticAbout scan.setup text about = .ok d := by
    intro about mem
    have own := each about.1
    rw [mapM_partsFor?] at own
    obtain ⟨d, -, made⟩ := exists_of_mapM_ok own (List.mem_filter.2 ⟨mem, decide_eq_true rfl⟩)
    exact ⟨d, made⟩
  obtain ⟨ds, all⟩ := exists_mapM_ok every
  refine ⟨ds, ⟨text, reads, all⟩, ?_⟩
  have part (h : Handle) : found h = ds.filter (·.file = h) := by
    have own := each h
    rw [mapM_partsFor?, mapM_filter_ok (q := (·.file = h)) all fun about d made => by
      rw [file_of_diagnosticAbout made]] at own
    exact (Except.ok.inj own).symm
  unfold Report.diagnostics Report.files Table.keys byKey
  rw [problems, List.map_map, List.flatMap_map, List.flatMap_map]
  exact congrArg (List.flatMap · _) (funext fun e => part e.1)

/-! ### Listings of reports -/

/-- The files of a report are files of the scan. -/
theorem files_subset (c : Success scan report) {h : Handle} (mem : h ∈ report.files) :
    h ∈ c.files := by
  obtain ⟨s, last, rfl⟩ := c.mem_files.1 mem
  rw [← c.map_handle_made]
  exact List.mem_map_of_mem last.mem

/-- Where paths resolve to handles of the workspace, the files of a scan of roots are such
handles. -/
theorem files_forPath (c : Success scan report) {roots : List Root} {filter : Filter}
    (targets : scan.targets = .roots roots) (picker : scan.picker = .rule filter)
    (resolves : ∀ e ∈ c.trace, e.ResolvesTo fun h => ∃ path, h = Handle.forPath scan.cwd path) :
    ∀ h ∈ c.files, ∃ path, h = Handle.forPath scan.cwd path := by
  obtain ⟨t₁, t₂, ls, t₃, starting, resolve, -⟩ := runs_start_ok c.start
  refine (known_resolveFiles targets picker resolve fun e he => resolves e ?_).2
  unfold trace before
  rw [starting]
  simp [he]

/-- Where paths resolve to handles of the workspace, the sorted report of a scan of roots is a
listing of what the tool reported. -/
theorem listing_sort (c : Success scan report) {roots : List Root} {filter : Filter}
    (targets : scan.targets = .roots roots) (picker : scan.picker = .rule filter)
    (resolves : ∀ e ∈ c.trace, e.ResolvesTo fun h => ∃ path, h = Handle.forPath scan.cwd path) :
    ∃ ds, c.Reports ds ∧ Diagnostic.Listing ds (Diagnostic.sort report.diagnostics) := by
  obtain ⟨ds, reports, taken⟩ := c.exists_reports
  refine ⟨ds, reports, Diagnostic.Listing.of_files (taken ▸ Diagnostic.listing_sort _)
    c.nodup_files (fun d mem => reports.file_mem mem) fun h mem k mem' same => ?_⟩
  obtain ⟨p, rfl⟩ := c.files_forPath targets picker resolves h (c.files_subset mem)
  obtain ⟨q, rfl⟩ := c.files_forPath targets picker resolves k (c.files_subset mem')
  exact congrArg (Handle.mk · .workspace) same

end Scan.Success

end LiveCheck
