import LiveCheck.Proofs.Scan.LostErrors

/-!
# Which files a report has

The listeners of a scan are told its files, and a snapshot is made of each of them.  From there on
a file is known by the path of its snapshot, and a path belongs to one file only: where two
snapshots have one path in normal form, the later one takes the place of the earlier one, and the
report is about the files that are left.  `Success.files_report` says which these are.  No two
copies have one path, so a file can only be lost to another one that is read where it is.
-/

namespace LiveCheck

open Program Attribution

namespace Snapshot

variable {cwd : String} {made : List Snapshot}

/-- The snapshot is the last one of the set with its path. -/
def IsLast (cwd : String) (made : List Snapshot) (s : Snapshot) : Prop :=
  ∃ before after, made = before ++ s :: after ∧
    ∀ s' ∈ after, s'.absolutePath cwd ≠ s.absolutePath cwd

/-- The last snapshot with a path is in the set. -/
theorem IsLast.mem {s : Snapshot} (h : IsLast cwd made s) : s ∈ made := by
  obtain ⟨before, after, rfl, -⟩ := h
  simp

/-- The last two snapshots with one path are the same. -/
theorem IsLast.unique {s s' : Snapshot} (h : IsLast cwd made s) (h' : IsLast cwd made s')
    (same : s.absolutePath cwd = s'.absolutePath cwd) : s = s' := by
  obtain ⟨before, after, rfl, none⟩ := h
  obtain ⟨before', after', cut, none'⟩ := h'
  rcases List.append_eq_append_iff.1 cut with ⟨c, -, rest⟩ | ⟨c, -, rest⟩
  · cases c with
    | nil => exact (List.cons.inj rest).1
    | cons first c =>
      -- The other snapshot stands behind this one.
      have behind : s' ∈ after := by
        rw [(List.cons.inj rest).2]
        simp
      exact absurd same.symm (none _ behind)
  · cases c with
    | nil => exact (List.cons.inj rest).1.symm
    | cons first c =>
      have behind : s ∈ after' := by
        rw [(List.cons.inj rest).2]
        simp
      exact absurd same (none' _ behind)

/-- The tool is handed a path for the file of the last snapshot with the path. -/
theorem get?_mapping {path : String} {h : Handle} :
    (mapping cwd made).get? path = some h ↔
      ∃ s, IsLast cwd made s ∧ s.absolutePath cwd = path ∧ s.handle = h := by
  unfold mapping
  rw [Table.get?_ofPairs, ← List.map_reverse]
  unfold Table.get?
  rw [List.find?_map, Option.map_map, Option.map_eq_some_iff]
  simp only [List.find?_eq_some_iff_append]
  constructor
  · rintro ⟨s, ⟨same, after, before, cut, none⟩, rfl⟩
    refine ⟨s, ⟨before.reverse, after.reverse, ?_, fun s' hs' => ?_⟩, by simpa using same, rfl⟩
    · simpa using congrArg List.reverse cut
    · have other := none s' (List.mem_reverse.1 hs')
      have same : s.absolutePath cwd = path := by simpa using same
      rw [same]
      simpa using other
  · rintro ⟨s, ⟨before, after, rfl, none⟩, rfl, rfl⟩
    refine ⟨s, ⟨by simp, after.reverse, before.reverse, by simp, fun s' hs' => ?_⟩, rfl⟩
    simpa using none s' (List.mem_reverse.1 hs')

/-- Among the snapshots with the path of one of them there is a last one. -/
theorem exists_isLast {s : Snapshot} (h : s ∈ made) :
    ∃ z, IsLast cwd made z ∧ z.absolutePath cwd = s.absolutePath cwd := by
  have handed : s.absolutePath cwd ∈ (mapping cwd made).keys := absolutePath_mem_keys h
  obtain ⟨_, found⟩ := Table.exists_get? handed
  obtain ⟨z, last, same, -⟩ := get?_mapping.1 found
  exact ⟨z, last, same⟩

end Snapshot

namespace Scan.Success

variable {scan : Scan} {report : Report}

/-- The files of a scan are those of its snapshots. -/
theorem map_handle_made (c : Success scan report) : c.made.map Snapshot.handle = c.files := by
  obtain ⟨id, files, made, lines, starting, making, printing, reporting, deleting, telling, told,
    start, work, delete, announced⟩ := c
  cases work with
  | nothing => rfl
  | checked make print parse =>
    obtain ⟨t, -, each⟩ := Snapshot.runs_makeAll_ok make
    exact Snapshot.map_handle_of_makeEach each

/-- The report has the files of the last snapshots with their paths. -/
theorem mem_files (c : Success scan report) {h : Handle} :
    h ∈ report.files ↔ ∃ s, Snapshot.IsLast scan.cwd c.made s ∧ s.handle = h := by
  obtain ⟨text, reads⟩ := c.exists_reads
  obtain ⟨found, problems, -⟩ := c.attributes reads
  have keys : h ∈ report.files ↔ h ∈ (noProblems c.mapping).keys := by
    unfold Report.files
    rw [problems]
    simp [Table.keys]
  have values : h ∈ (noProblems c.mapping).keys ↔ h ∈ c.mapping.map Prod.snd := by
    unfold noProblems
    constructor
    · intro hmem
      simpa [Function.comp_def] using Table.mem_of_mem_keys_ofPairs hmem
    · intro hmem
      exact Table.mem_keys_ofPairs (by simpa [Function.comp_def] using hmem)
  rw [keys, values]
  constructor
  · intro hmem
    obtain ⟨⟨path, _⟩, he, rfl⟩ := List.mem_map.1 hmem
    have mapped := Table.get?_of_mem (Table.nodup_keys_ofPairs _) he
    obtain ⟨s, last, -, same⟩ := Snapshot.get?_mapping.1 mapped
    exact ⟨s, last, same⟩
  · rintro ⟨s, last, rfl⟩
    have mapped := Snapshot.get?_mapping.2 ⟨s, last, rfl, rfl⟩
    exact List.mem_map.2 ⟨_, Table.mem_of_get? mapped, rfl⟩

/-- A report is about all files of a scan, each of which is scanned once, just if no two of them
have snapshots with one path. -/
theorem mem_files_iff_files (c : Success scan report) (nodup : c.files.Nodup) :
    (∀ h, h ∈ report.files ↔ h ∈ c.files) ↔
      ∀ s ∈ c.made, ∀ s' ∈ c.made, s.absolutePath scan.cwd = s'.absolutePath scan.cwd →
        s.handle = s'.handle := by
  have handle_mem {s : Snapshot} (hs : s ∈ c.made) : s.handle ∈ c.files :=
    c.map_handle_made ▸ List.mem_map_of_mem hs
  constructor
  · intro all s hs s' hs' same
    -- A snapshot whose file is in the report is the last one with its path.
    have last {s : Snapshot} (hs : s ∈ c.made) : Snapshot.IsLast scan.cwd c.made s := by
      obtain ⟨z, last, handle⟩ := c.mem_files.1 ((all s.handle).2 (handle_mem hs))
      rw [← c.map_handle_made] at nodup
      exact List.inj_on_of_nodup_map nodup last.mem hs handle ▸ last
    rw [(last hs).unique (last hs') same]
  · intro apart h
    constructor
    · intro hmem
      obtain ⟨s, last, rfl⟩ := c.mem_files.1 hmem
      exact handle_mem last.mem
    · intro hmem
      rw [← c.map_handle_made] at hmem
      obtain ⟨s, hs, rfl⟩ := List.mem_map.1 hmem
      obtain ⟨z, last, same⟩ := Snapshot.exists_isLast hs
      exact c.mem_files.2 ⟨z, last, apart z last.mem s hs same⟩

/-- In a workspace two snapshots that have one path are both files that are read where they are,
unless a copy was created at the path of a file of the scan. -/
theorem samePath_iff (c : Success scan report) {w w' : Workspace}
    (follows : Follows w c.before w') (cwd : w.cwd = scan.cwd)
    (fresh : ∀ s ∈ c.made, s.temporary = true → ∀ h ∈ c.files,
      s.path ≠ Path.normalize scan.cwd h.path) :
    (∀ s ∈ c.made, ∀ s' ∈ c.made, s.absolutePath scan.cwd = s'.absolutePath scan.cwd →
        s.handle = s'.handle) ↔
      ∀ s ∈ c.made, ∀ s' ∈ c.made, s.temporary = false → s'.temporary = false →
        Path.normalize scan.cwd s.handle.path = Path.normalize scan.cwd s'.handle.path →
        s.handle = s'.handle := by
  obtain ⟨v, same_cwd, parts⟩ := c.exists_apart follows
  rw [cwd] at same_cwd
  have handle_mem {s : Snapshot} (hs : s ∈ c.made) : s.handle ∈ c.files :=
    c.map_handle_made ▸ List.mem_map_of_mem hs
  have itself {s : Snapshot} (hs : s ∈ c.made) (is : s.temporary = false) :
      s.absolutePath scan.cwd = Path.normalize scan.cwd s.handle.path := by
    unfold Snapshot.absolutePath
    rw [parts.itself s hs is]
  have copied {s : Snapshot} (hs : s ∈ c.made) (is : s.temporary = true) :
      s.absolutePath scan.cwd = s.path := by
    have normal := parts.normal s hs is
    rwa [same_cwd] at normal
  constructor
  · intro apart s hs s' hs' is is' same
    refine apart s hs s' hs' ?_
    rw [itself hs is, itself hs' is', same]
  · intro read s hs s' hs' same
    cases is : s.temporary with
    | false =>
      cases is' : s'.temporary with
      | false =>
        refine read s hs s' hs' is is' ?_
        rw [← itself hs is, ← itself hs' is', same]
      | true =>
        rw [itself hs is, copied hs' is'] at same
        exact absurd same.symm (fresh s' hs' is' _ (handle_mem hs))
    | true =>
      cases is' : s'.temporary with
      | false =>
        rw [copied hs is, itself hs' is'] at same
        exact absurd same (fresh s hs is _ (handle_mem hs'))
      | true =>
        rw [copied hs is, copied hs' is'] at same
        have one := List.inj_on_of_nodup_map parts.distinct
          (List.mem_filter.2 ⟨hs, is⟩) (List.mem_filter.2 ⟨hs', is'⟩) same
        rw [one]

/-- Which files a report has.  The listeners are told the files of the scan; the report has those
whose snapshots are the last ones with their paths.  If every file is scanned once, it has all of
them just if no two snapshots share a path, and in a workspace just if no two different files that
are read where they are have one path in normal form. -/
theorem files_report (c : Success scan report) :
    (∃ t ls t', c.starting = t ++ (Trace.registering ls ++ t') ∧
      Runs (tellStart c.files ls).attempt t' (.ok ())) ∧
    (∀ h, h ∈ report.files ↔ ∃ s, Snapshot.IsLast scan.cwd c.made s ∧ s.handle = h) ∧
    (∀ h ∈ report.files, h ∈ c.files) ∧
    (c.files.Nodup → ((∀ h, h ∈ report.files ↔ h ∈ c.files) ↔
      ∀ s ∈ c.made, ∀ s' ∈ c.made, s.absolutePath scan.cwd = s'.absolutePath scan.cwd →
        s.handle = s'.handle)) ∧
    (c.files.Nodup → ∀ w w', Follows w c.before w' → w.cwd = scan.cwd →
      (∀ s ∈ c.made, s.temporary = true → ∀ h ∈ c.files,
        s.path ≠ Path.normalize scan.cwd h.path) →
      ((∀ h, h ∈ report.files ↔ h ∈ c.files) ↔
        ∀ s ∈ c.made, ∀ s' ∈ c.made, s.temporary = false → s'.temporary = false →
          Path.normalize scan.cwd s.handle.path = Path.normalize scan.cwd s'.handle.path →
          s.handle = s'.handle)) := by
  refine ⟨?_, fun h => c.mem_files, fun h hmem => ?_, c.mem_files_iff_files,
    fun nodup w w' follows cwd fresh => ?_⟩
  · obtain ⟨t₁, t₂, ls, t₃, cut, -, told⟩ := runs_start_ok c.start
    exact ⟨t₁ ++ t₂, ls, t₃, by rw [cut, List.append_assoc], told⟩
  · obtain ⟨s, last, rfl⟩ := c.mem_files.1 hmem
    rw [← c.map_handle_made]
    exact List.mem_map_of_mem last.mem
  · exact (c.mem_files_iff_files nodup).trans (c.samePath_iff follows cwd fresh)

end Scan.Success

namespace Scan

/-! ### A file that is lost -/

/-- A handle of a file by a path that is not in normal form. -/
def dottedHandle : Handle := { path := "/p/./a.py" }

/-- A scan of a file under two handles. -/
def dottedScan : Scan := { twoRoots with targets := .files [{ path := "/p/a.py" }, dottedHandle] }

/-- The file on the disk, where nothing is edited. -/
def dottedFile : Workspace := { twoFiles false [] 0 with documents := .fresh "utf-8" }

/-- The report of the scan: one of the handles is missing. -/
def dottedReport : Report := { id := "", problems := [(dottedHandle, [])] }

/-- The snapshots of the two handles. -/
def dottedSnapshots : List Snapshot :=
  [firstSnapshot, { handle := dottedHandle, path := "/p/./a.py", temporary := false }]

/-- The scan of the two handles succeeds. -/
theorem exists_success_dottedScan :
    ∃ (c : Success dottedScan dottedReport) (last : Workspace),
      c.files = [{ path := "/p/a.py" }, dottedHandle] ∧ c.made = dottedSnapshots ∧
      Follows dottedFile c.before last := by
  have start : Ends dottedFile dottedScan.start.attempt
      (.ok [{ path := "/p/a.py" }, dottedHandle]) dottedFile :=
    ends_of_disk Request.nothing ⟨rfl, rfl, rfl⟩ (by decide +kernel)
  have make : Ends dottedFile (Snapshot.makeAll none true [{ path := "/p/a.py" }, dottedHandle])
      (dottedSnapshots, .ok ()) dottedFile :=
    ends_of_disk Request.nothing ⟨rfl, rfl, rfl⟩ (by decide +kernel)
  have print : Ends dottedFile
      (dottedScan.print (Snapshot.mapping "/" dottedSnapshots).keys).attempt (.ok []) dottedFile :=
    ends_of_disk Request.nothing ⟨rfl, rfl, rfl⟩ (by decide +kernel)
  have parse : Ends dottedFile
      (dottedScan.report "" (Snapshot.mapping "/" dottedSnapshots) []).attempt
      (.ok dottedReport) dottedFile :=
    ends_of_disk Request.nothing ⟨rfl, rfl, rfl⟩ (by decide +kernel)
  have delete : Ends dottedFile (Snapshot.deleteAll dottedSnapshots).attempt (.ok ()) dottedFile :=
    ends_of_disk Request.nothing ⟨rfl, rfl, rfl⟩ (by decide +kernel)
  obtain ⟨c, files, made, lines, before, after⟩ :=
    Success.exists_of_ends start make print parse delete (ends_record Request.nothing rfl)
  exact ⟨c, _, files, made, before⟩

/-- The report of two files has both of them, and the report of one file under two handles has one
of the handles. -/
theorem files_report_unless_dotted :
    (∃ c : Success twoRoots (twoReport "one"),
      ∀ h, h ∈ (twoReport "one").files ↔ h ∈ c.files) ∧
    ∃ c : Success dottedScan dottedReport, ¬ ∀ h, h ∈ dottedReport.files ↔ h ∈ c.files := by
  constructor
  · obtain ⟨c, last, files, made, lines, before, after⟩ := exists_success_twoRoots "one" false
    refine ⟨c, (c.files_report.2.2.2.1 ?_).2 ?_⟩
    · rw [files]
      decide
    · rw [made]
      decide +kernel
  · obtain ⟨c, last, files, made, before⟩ := exists_success_dottedScan
    refine ⟨c, fun all => ?_⟩
    have nodup : c.files.Nodup := by
      rw [files]
      decide
    have fresh : ∀ s ∈ c.made, s.temporary = true → ∀ h ∈ c.files,
        s.path ≠ Path.normalize dottedScan.cwd h.path := by
      rw [made, files]
      decide +kernel
    have read := (c.files_report.2.2.2.2 nodup _ _ before rfl fresh).1 all
    rw [made] at read
    exact absurd read (by decide +kernel)

/-- Not every file that listeners are told at the start is in the report of the success. -/
theorem not_all_files_reported :
    ¬ ∀ (scan : Scan) (report : Report) (c : Success scan report), c.files.Nodup →
      ∀ h ∈ c.files, h ∈ report.files := by
  intro all
  obtain ⟨c, last, files, made, before⟩ := exists_success_dottedScan
  have nodup : c.files.Nodup := by
    rw [files]
    decide
  have there := all _ _ c nodup { path := "/p/a.py" } (files ▸ List.mem_cons_self)
  exact absurd there (by decide +kernel)

end Scan

end LiveCheck
