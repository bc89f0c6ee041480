import LiveCheck.Proofs.Attribution
import LiveCheck.Proofs.Path
import LiveCheck.Proofs.Scan.Success

/-!
# What a scan makes of the lines of the tool

The tool is handed normal paths, and a normal path is found again under itself, so what the tool
prints about a handed path is about the file of its snapshot.  `Success.attributes` says what the
report of a scan consists of.
-/

namespace LiveCheck

open Program Attribution ReportLine

/-! ### Handed paths -/

namespace Snapshot

variable {cwd : String} {made : List Snapshot}

/-- What stands in the mapping of a set belongs to a snapshot of the set. -/
theorem exists_of_mem_mapping {e : String × Handle} (h : e ∈ mapping cwd made) :
    ∃ s ∈ made, e = (s.absolutePath cwd, s.handle) := by
  obtain ⟨s, hs, rfl⟩ := List.mem_map.1 (Table.mem_of_mem_ofPairs h)
  exact ⟨s, hs, rfl⟩

/-- The tool is handed the path of every snapshot. -/
theorem absolutePath_mem_keys {s : Snapshot} (h : s ∈ made) :
    s.absolutePath cwd ∈ (mapping cwd made).keys :=
  Table.mem_keys_ofPairs (List.mem_map.2 ⟨_, List.mem_map.2 ⟨s, h, rfl⟩, rfl⟩)

/-- A handed path is normal. -/
theorem normalize_absolutePath (cwd' : String) (s : Snapshot) :
    Path.normalize cwd' (s.absolutePath cwd) = s.absolutePath cwd :=
  Path.normalize_normalize cwd cwd' s.path

/-- Nothing changes when handed paths are made normal. -/
theorem normalPaths_mapping (setup : Setup) :
    normalPaths setup (mapping cwd made) = mapping cwd made := by
  have same : (mapping cwd made).map (fun e => (Path.normalize setup.cwd e.1, e.2)) =
      mapping cwd made := by
    refine (List.map_congr_left fun e he => ?_).trans (List.map_id _)
    obtain ⟨s, -, rfl⟩ := exists_of_mem_mapping he
    rw [normalize_absolutePath]
    rfl
  unfold normalPaths
  rw [same]
  exact Table.ofPairs_of_nodup (Table.nodup_keys_ofPairs _)

end Snapshot

/-! ### The report of a scan -/

namespace Scan.Success

variable {scan : Scan} {report : Report}

/-- The files by the paths that the tool is handed. -/
def mapping (c : Success scan report) : Table String Handle := Snapshot.mapping scan.cwd c.made

/-- Nothing is read where nothing is asked about texts. -/
theorem reads_of_about {cs : List Concern} {t : Trace} (about : Trace.About cs t)
    (other : Concern.text ∉ cs) (text : Handle → Except Fault String) : Reads text t :=
  fun _ _ hmem => (other (about _ hmem)).elim

/-- If a report is made, its problems are those of the attribution. -/
theorem exists_ofLines {id : String} {mapping : Table String Handle} {lines : List String}
    {t : Trace} (run : Runs (scan.report id mapping lines).attempt t (.ok report)) :
    ∃ t', Runs (ofLines scan.setup mapping lines).attempt t' (.ok report.problems) ∧
      ∀ text, Reads text t' ↔ Reads text t := by
  unfold Scan.report at run
  obtain ⟨t₁, t₂, _, rfl, entering, checking⟩ := runs_attempt_bind_ok.1 run
  obtain ⟨t₃, t₄, _, rfl, check, attributing⟩ := runs_attempt_bind_ok.1 checking
  obtain ⟨t₅, t₆, problems, rfl, attributed, last⟩ := runs_attempt_bind_ok.1 attributing
  obtain ⟨rfl, same⟩ := runs_attempt_pure.1 last
  cases same
  refine ⟨t₅, attributed, fun text => ⟨fun reads => ?_, fun reads => ?_⟩⟩
  · have reads₁ := reads_of_about (entering.about (enter_asks .parsing)) (by decide) text
    have reads₃ := reads_of_about (check.about (checkCancelled_asks true)) (by decide) text
    rw [List.append_nil]
    exact reads₁.append (reads₃.append reads)
  · exact reads.of_append.2.of_append.2.of_append.1

/-- While lines are attributed every file has one text. -/
theorem exists_reads (c : Success scan report) : ∃ text, Reads text c.reporting := by
  obtain ⟨id, files, made, lines, starting, making, printing, reporting, deleting, telling, told,
    start, work, delete, announced⟩ := c
  cases work with
  | nothing => exact ⟨fun _ => .ok "", fun _ _ h => (List.not_mem_nil h).elim⟩
  | checked make print parse =>
    obtain ⟨t', attributed, same⟩ := exists_ofLines parse
    obtain ⟨text, reads⟩ := exists_reads_ofLines attributed
    exact ⟨text, (same text).1 reads⟩

/-- The report has the files behind the handed paths, and gives each of them the diagnostics of
the lines about it, in their order. -/
theorem attributes (c : Success scan report) {text : Handle → Except Fault String}
    (reads : Reads text c.reporting) :
    ∃ found : Handle → List Diagnostic,
      report.problems = (noProblems c.mapping).map (fun e => (e.1, found e.1)) ∧
      ∀ h, (c.lines.filterMap (partsFor? scan.setup c.mapping h)).mapM
        (diagnosticOf scan.setup (shownText (text h)) h) = .ok (found h) := by
  obtain ⟨id, files, made, lines, starting, making, printing, reporting, deleting, telling, told,
    start, work, delete, announced⟩ := c
  dsimp only [mapping] at reads ⊢
  cases work with
  | nothing => exact ⟨fun _ => [], rfl, fun _ => rfl⟩
  | checked make print parse =>
    obtain ⟨t', attributed, same⟩ := exists_ofLines parse
    have each := runs_ofLines attributed ((same text).2 reads)
    rwa [Snapshot.normalPaths_mapping] at each

end Scan.Success

end LiveCheck
