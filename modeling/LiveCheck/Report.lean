import LiveCheck.Diagnostic.Basic
import LiveCheck.Fault
import LiveCheck.Table

namespace LiveCheck

/-! ### Reports and outcomes

The report of a scan gives every scanned file its diagnostics, in the order in which they were
printed; the files stand in the order in which they were scanned, also those without diagnostics.
The outcome of a scan says how it ended; only a successful one has a report that is not empty. -/

/-- What one scan found. -/
structure Report where
  id : String
  problems : Table Handle (List Diagnostic)
deriving DecidableEq, Repr

namespace Report

/-- The report of a scan that found nothing. -/
def empty (id : String) : Report := { id, problems := [] }

/-- The files of the report. -/
def files (r : Report) : List Handle := r.problems.keys

/-- The diagnostics of a file, if the report has the file. -/
def get? (r : Report) (h : Handle) : Option (List Diagnostic) := r.problems.get? h

/-- All diagnostics, file by file. -/
def diagnostics (r : Report) : List Diagnostic := r.problems.flatMap (·.2)

/-- The number of diagnostics of one severity. -/
def count (r : Report) (s : Severity) : Nat := r.diagnostics.countP (·.severity = s)

/-- Do the tables give the same files the same diagnostics, in whatever order of the files? -/
def sameProblems (p q : Table Handle (List Diagnostic)) : Bool :=
  p.length = q.length && p.all fun entry => q.get? entry.1 = some entry.2

/-- The report as it is shown to a programmer. -/
def display (r : Report) : String :=
  "ScanResult(scan_id=" ++ Text.quoteString r.id ++ ", files=" ++
    Text.natString r.problems.length ++ ", diagnostics=" ++
    Text.natString r.diagnostics.length ++ ")"

/-- The diagnostics by path: where two files have one path, the later one counts and stands in the
place of the first. -/
def byPath (r : Report) : Table String (List Diagnostic) :=
  Table.ofPairs (r.problems.map fun entry => (entry.1.path, entry.2))

end Report

/-- How a scan ended. -/
inductive Outcome where
  | success (report : Report)
  | cancelled (id : String)
  | failed (id : String) (error : Fault)
deriving DecidableEq, Repr

namespace Outcome

/-- The word for an ending. -/
def kind : Outcome → String
  | success _ => "success"
  | cancelled _ => "cancelled"
  | failed _ _ => "failed"

/-- What the scan found: nothing, unless it succeeded. -/
def report : Outcome → Report
  | success report => report
  | cancelled id | failed id _ => .empty id

/-- The failure of a scan that failed. -/
def error? : Outcome → Option Fault
  | failed _ error => some error
  | _ => none

/-- Did the scan succeed? -/
def isSuccess : Outcome → Bool
  | success _ => true
  | _ => false

/-- An outcome that is a success is the success with its report. -/
theorem eq_success {outcome : Outcome} (success : outcome.isSuccess = true) :
    outcome = .success outcome.report := by
  cases outcome with
  | success report => rfl
  | cancelled | failed => cases success

end Outcome

/-- Where a scan stands. -/
inductive Phase where
  | idle
  | discovering
  | snapshotting
  | invoking
  | parsing
  | notifyingSuccess
  | notifyingFailure
  | notifyingCancelled
deriving DecidableEq, Repr

/-- The word for a phase. -/
def Phase.word : Phase → String
  | idle => "idle"
  | discovering => "discovering"
  | snapshotting => "snapshotting"
  | invoking => "invoking"
  | parsing => "parsing"
  | notifyingSuccess => "notifying_success"
  | notifyingFailure => "notifying_failure"
  | notifyingCancelled => "notifying_cancelled"

end LiveCheck
