import LiveCheck.Proofs.Numeral
import LiveCheck.Proofs.Scan.Roots

/-!
# Which errors are lost

A file without diagnostics in a report is said to have no errors.  That is true only if every error
that the tool prints finds its file again, and the form of a line does not provide for that: the
path in it ends at the first colon.  `Success.Carries` names what a line needs to be understood,
and `Success.error_reaches` says that nothing else is needed, and that an error which does not
arrive leaves no trace: where the tool prints nothing but such lines about a file, the report calls
the file clean.
-/

namespace LiveCheck

open Program Attribution ReportLine

/-- The diagnostic of a tail has the line and the column of the tail. -/
theorem Attribution.line_of_diagnosticOf {setup : Setup} {text : Option DocumentText} {h : Handle}
    {tail : Tail} {path : List Char} {d : Diagnostic}
    (made : diagnosticOf setup text h (tail.parts path) = .ok d) :
    d.line = Text.numeralValue tail.line ∧
      ∀ digits ∈ tail.column, d.column = Text.numeralValue digits := by
  obtain ⟨line, column, -⟩ := diagnosticOf_eq_ok_iff.1 made
  refine ⟨(readNumber_eq_ok_iff.1 line).2, fun digits hd => ?_⟩
  have there : (tail.parts path).column = some digits := hd
  rw [there] at column
  exact (readNumber_eq_ok_iff.1 column).2

namespace Scan

namespace Success

variable {scan : Scan} {report : Report}

/-- What a line about a snapshot needs to be understood: the handed path holds no colon, there is
a message, and the path belongs to the file of the snapshot. -/
structure Carries (c : Success scan report) (s : Snapshot) (tail : Tail) : Prop where
  plain : ':' ∉ (s.absolutePath scan.cwd).toList
  said : Text.allBlank tail.message = false
  mapped : c.mapping.get? (s.absolutePath scan.cwd) = some s.handle

/-- A line that has what it needs is about the file of the snapshot. -/
theorem Carries.partsFor? {c : Success scan report} {s : Snapshot} {tail : Tail}
    (h : c.Carries s tail) :
    partsFor? scan.setup c.mapping s.handle (tail.lineAt (s.absolutePath scan.cwd)) =
      some (tail.parts (s.absolutePath scan.cwd).toList) := by
  unfold Attribution.partsFor?
  rw [target?_lineAt (Snapshot.normalize_absolutePath _ s) h.plain h.said, h.mapped]
  exact if_pos rfl

/-- A line that lacks something is not about the file of the snapshot, if the tool is handed no
other path for the file. -/
theorem partsFor?_of_not_carries {c : Success scan report} {s : Snapshot} {tail : Tail}
    (lost : ¬ c.Carries s tail)
    (sole : ∀ s' ∈ c.made, s'.handle = s.handle →
      s'.absolutePath scan.cwd = s.absolutePath scan.cwd) :
    partsFor? scan.setup c.mapping s.handle (tail.lineAt (s.absolutePath scan.cwd)) = none := by
  have normal : Path.normalize scan.setup.cwd (s.absolutePath scan.cwd) =
      s.absolutePath scan.cwd := Snapshot.normalize_absolutePath _ s
  unfold Attribution.partsFor?
  split
  · next h parts target =>
    refine if_neg ?_
    rintro rfl
    by_cases colon : ':' ∈ (s.absolutePath scan.cwd).toList
    · -- The file would have to be handed to the tool under a path without a colon.
      obtain ⟨other, found, plain⟩ := colon_notMem_of_target? normal target
      obtain ⟨s', hs', same⟩ := Snapshot.exists_of_mem_mapping (Table.mem_of_get? found)
      obtain ⟨rfl, handle⟩ := Prod.mk.inj same
      rw [sole s' hs' handle.symm] at plain
      exact plain colon
    · cases said : Text.allBlank tail.message with
      | true =>
        rw [target?_lineAt_blank normal colon said] at target
        cases target
      | false =>
        rw [target?_lineAt normal colon said] at target
        obtain ⟨h, mapped, same⟩ := Option.map_eq_some_iff.1 target
        obtain ⟨rfl, -⟩ := Prod.mk.inj same
        exact lost ⟨colon, said, mapped⟩
  · rfl

/-- The report gives a file the diagnostics of the lines about it, if it has the file. -/
theorem get?_report (c : Success scan report) {found : Handle → List Diagnostic}
    (problems : report.problems = (noProblems c.mapping).map fun e => (e.1, found e.1))
    (h : Handle) : report.get? h = ((noProblems c.mapping).get? h).map fun _ => found h := by
  unfold Report.get?
  rw [problems]
  exact Table.get?_mapValues _ (fun h _ => found h) h

/-- The tool is handed the path of every snapshot.  An error about the path is in the report under
the file of the snapshot, with its line and its column, if its line has what it needs.  If the line
lacks something and nothing else that the tool prints is about the file, the report has no
diagnostics of the file. -/
theorem error_reaches (c : Success scan report) {s : Snapshot} (hs : s ∈ c.made) (tail : Tail) :
    s.absolutePath scan.cwd ∈ c.mapping.keys ∧
    (c.Carries s tail → tail.lineAt (s.absolutePath scan.cwd) ∈ c.lines →
      ∃ d ∈ (report.get? s.handle).getD [], d.line = Text.numeralValue tail.line ∧
        ∀ digits ∈ tail.column, d.column = Text.numeralValue digits) ∧
    (¬ c.Carries s tail →
      (∀ s' ∈ c.made, s'.handle = s.handle →
        s'.absolutePath scan.cwd = s.absolutePath scan.cwd) →
      (∀ line ∈ c.lines, line = tail.lineAt (s.absolutePath scan.cwd) ∨
        partsFor? scan.setup c.mapping s.handle line = none) →
      (report.get? s.handle).getD [] = []) := by
  obtain ⟨text, reads⟩ := c.exists_reads
  obtain ⟨found, problems, each⟩ := c.attributes reads
  refine ⟨Snapshot.absolutePath_mem_keys hs, ?_, ?_⟩
  · intro carries printed
    have known : s.handle ∈ (noProblems c.mapping).keys := by
      refine Table.mem_keys_ofPairs ?_
      rw [List.map_map]
      exact List.mem_map.2 ⟨_, Table.mem_of_get? carries.mapped, rfl⟩
    obtain ⟨_, start⟩ := Table.exists_get? known
    rw [c.get?_report problems, start]
    obtain ⟨d, hd, made⟩ := exists_of_mapM_ok (each s.handle)
      (List.mem_filterMap.2 ⟨_, printed, carries.partsFor?⟩)
    exact ⟨d, hd, line_of_diagnosticOf made⟩
  · intro lost sole only
    have none : c.lines.filterMap (partsFor? scan.setup c.mapping s.handle) = [] := by
      refine List.filterMap_eq_nil_iff.2 fun line hline => ?_
      rcases only line hline with rfl | elsewhere
      · exact partsFor?_of_not_carries lost sole
      · exact elsewhere
    have empty : found s.handle = [] := by
      have all := each s.handle
      rw [none] at all
      exact (Except.ok.inj all).symm
    rw [c.get?_report problems, empty]
    cases (noProblems c.mapping).get? s.handle <;> rfl

end Success

/-! ### A file that looks clean -/

/-- A file with a colon in its name. -/
def colonHandle : Handle := { path := "/p/a:b.py" }

/-- A scan of the file. -/
def colonScan : Scan := { twoRoots with targets := .files [colonHandle] }

/-- The file on the disk. -/
def colonFile : Workspace :=
  { twoFiles false [([['p'], "a:b.py".toList], .file [0x78])] 0 with documents := .fresh "utf-8" }

/-- The report of the scan. -/
def colonReport : Report := { id := "", problems := [(colonHandle, [])] }

/-- The snapshot of the file. -/
def colonSnapshot : Snapshot := { handle := colonHandle, path := "/p/a:b.py", temporary := false }

/-- What the tool prints about the file. -/
def colonLines : List String := [errorOnFirst.lineAt "/p/a:b.py"]

/-- The tool prints an error about the file, and the report calls the file clean. -/
theorem exists_success_colonScan :
    ∃ c : Success colonScan colonReport, c.made = [colonSnapshot] ∧ c.lines = colonLines := by
  have start : Ends colonFile colonScan.start.attempt (.ok [colonHandle]) colonFile :=
    ends_of_disk Request.nothing ⟨rfl, rfl, rfl⟩ (by decide +kernel)
  have make : Ends colonFile (Snapshot.makeAll none true [colonHandle])
      ([colonSnapshot], .ok ()) colonFile :=
    ends_of_disk Request.nothing ⟨rfl, rfl, rfl⟩ (by decide +kernel)
  have print : Ends colonFile
      (colonScan.print (Snapshot.mapping "/" [colonSnapshot]).keys).attempt (.ok colonLines)
      colonFile :=
    ends_of_disk (saying colonLines) ⟨rfl, rfl, rfl⟩ (by decide +kernel)
  have parse : Ends colonFile
      (colonScan.report "" (Snapshot.mapping "/" [colonSnapshot]) colonLines).attempt
      (.ok colonReport) colonFile :=
    ends_of_disk Request.nothing ⟨rfl, rfl, rfl⟩ (by decide +kernel)
  have delete : Ends colonFile (Snapshot.deleteAll [colonSnapshot]).attempt (.ok ()) colonFile :=
    ends_of_disk Request.nothing ⟨rfl, rfl, rfl⟩ (by decide +kernel)
  obtain ⟨c, files, made, lines, before, after⟩ :=
    Success.exists_of_ends start make print parse delete (ends_record Request.nothing rfl)
  exact ⟨c, made, lines⟩

/-- The path of the snapshot is normal as it is. -/
theorem absolutePath_colonSnapshot : colonSnapshot.absolutePath colonScan.cwd = "/p/a:b.py" := by
  decide +kernel

/-- The error about the first of two files is in the report, and the error about the file with a
colon in its name is not. -/
theorem error_reaches_unless_colon :
    (∃ d ∈ ((twoReport "one").get? { path := "/p/a.py" }).getD [], d.line = 1 ∧ d.column = 1) ∧
      (colonReport.get? colonHandle).getD [] = [] := by
  constructor
  · obtain ⟨c, last, files, made, lines, before, after⟩ := exists_success_twoRoots "one" false
    have there : firstSnapshot ∈ c.made := made ▸ List.mem_cons_self
    have carries : c.Carries firstSnapshot errorOnFirst := by
      refine ⟨by decide +kernel, by decide +kernel, ?_⟩
      unfold Success.mapping
      rw [made]
      decide +kernel
    obtain ⟨d, hd, line, column⟩ := (c.error_reaches there _).2.1 carries
      (lines ▸ List.mem_map.2 ⟨_, List.mem_cons_self, rfl⟩)
    exact ⟨d, hd, line, column ['1'] rfl⟩
  · obtain ⟨c, made, lines⟩ := exists_success_colonScan
    have lost : ¬ c.Carries colonSnapshot errorOnFirst := by
      intro carries
      have plain := carries.plain
      rw [absolutePath_colonSnapshot] at plain
      exact plain (by decide +kernel)
    refine (c.error_reaches (made ▸ List.mem_cons_self) errorOnFirst).2.2 lost ?_ ?_
    · intro s hs _
      rw [made] at hs
      obtain rfl := List.mem_singleton.1 hs
      rfl
    · intro line hline
      rw [lines] at hline
      rw [absolutePath_colonSnapshot]
      exact Or.inl (List.mem_singleton.1 hline)

/-- Not every error that the tool prints about a handed path is in the report, even where the
message is not empty and the name of the file is of one line. -/
theorem not_every_error_reaches :
    ¬ ∀ (scan : Scan) (report : Report) (c : Success scan report) (s : Snapshot) (tail : Tail),
      s ∈ c.made → '\n' ∉ s.handle.path.toList → tail.severity = "error".toList →
      Text.allBlank tail.message = false → tail.lineAt (s.absolutePath scan.cwd) ∈ c.lines →
      ∃ d ∈ (report.get? s.handle).getD [], d.line = Text.numeralValue tail.line := by
  intro all
  obtain ⟨c, made, lines⟩ := exists_success_colonScan
  have printed : errorOnFirst.lineAt (colonSnapshot.absolutePath colonScan.cwd) ∈ c.lines := by
    rw [absolutePath_colonSnapshot, lines]
    exact List.mem_cons_self
  obtain ⟨d, hd, -⟩ := all colonScan colonReport c colonSnapshot errorOnFirst
    (made ▸ List.mem_cons_self) (by decide +kernel) rfl (by decide +kernel) printed
  have clean : (colonReport.get? colonHandle).getD [] = [] := by decide +kernel
  change d ∈ (colonReport.get? colonHandle).getD [] at hd
  rw [clean] at hd
  cases hd

end Scan

end LiveCheck
