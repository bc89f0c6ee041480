import LiveCheck.Attribution
import LiveCheck.Discovery
import LiveCheck.Notification
import LiveCheck.Project
import LiveCheck.Snapshot
import LiveCheck.Tool

namespace LiveCheck

/-! ### A scan

A scan finds its files, tells its listeners, makes snapshots, runs the tool over them, attributes
what the tool printed, removes the snapshots and tells how it ended. Nothing to scan is a success
without any use of the tool. A scan that is told that it is cancelled gives up, and that is told as
an empty success. Any other fault is a failure, which is shown to the user before the listeners
hear of it. Only faults that end the program, and a lack of memory, leave the scan, after its
snapshots are removed. -/

/-- What is scanned. -/
inductive Targets where
  /-- These files. -/
  | files (handles : List Handle)
  /-- The files under these roots. -/
  | roots (roots : List Root)
deriving DecidableEq, Repr

/-- What runs over the files of a scan. -/
inductive Runner where
  /-- The configured tool. -/
  | tool
  /-- Something that somebody else provides. -/
  | provided
deriving DecidableEq, Repr

/-- What picks the files of a scan. -/
inductive Picker where
  /-- The rule of a project. -/
  | rule (filter : Filter)
  /-- Something that somebody else provides. -/
  | provided
deriving DecidableEq, Repr

/-- One scan, as it is planned. Every scan can be cancelled. -/
structure Scan where
  project : Project
  settings : Settings
  targets : Targets
  picker : Picker
  runner : Runner
  cwd : String

namespace Scan

/-- The scan of targets in a project, seen from the current directory. Without a filter, the rule
of the settings picks its files. -/
def of (project : Project) (settings : Settings) (cwd : String) (runner : Runner)
    (filter : Option Filter) (targets : Targets) : Scan :=
  { project, settings, targets, cwd, runner
    picker := .rule (filter.getD (.make project settings.extensions settings.allFiles)) }

/-- The message of a failure that is not the checker's own. -/
def genericMessage : String := "An error occurred while scanning a file."

/-- The fault of a scan without files and without roots. -/
def noTargetsFault : Fault := .badValue "ScanFiles needs files or roots"

/-! ### Telling listeners -/

/-- An event in the life of a scan. -/
inductive Event where
  | starting
  | completed
  | failed
deriving DecidableEq, Repr

/-- The name of an event. -/
def Event.name : Event → String
  | starting => "scan_starting"
  | completed => "scan_completed_successfully"
  | failed => "scan_failed_with_error"

/-- The event that an ending is. -/
def eventOf : Ending → Event
  | .completed _ => .completed
  | .failed _ => .failed

/-- What becomes of the fault of a listener: an error is noted in the log, a lack of memory and
what ends the program goes on. -/
def settle (listener : Listener) (event : Event) : Except Fault Unit → Action Unit
  | .ok () => pure ()
  | .error fault =>
    if fault.leaves then throw fault
    else Action.ofTotal (logLine .error .scan
      ("Listener " ++ listener.shown ++ " failed in " ++ event.name ++ ": " ++ fault.message))

/-- Tell listeners of the files, one after the other. All of them are given the same list, and
each may change it. -/
def tellStart (files : List Handle) : List Listener → Action Unit
  | [] => pure ()
  | listener :: rest => do
    let (files, result) ← Action.ofTotal (.request (.tellStart listener files))
    settle listener .starting result
    tellStart files rest

/-- Tell listeners how the scan ended, one after the other. -/
def tellEnd (ending : Ending) : List Listener → Action Unit
  | [] => pure ()
  | listener :: rest => do
    let result ← Action.ofTotal (.request (.tellEnd listener ending))
    settle listener (eventOf ending) result
    tellEnd ending rest

/-- The listeners that are registered now: a copy of the list, which is made under its lock. -/
def registered : Program (List Listener) := do
  .request .lockListeners
  let listeners ← .request .listeners
  .request .unlockListeners
  return listeners

/-- The listeners that are told: those that are registered when they are asked for. -/
def listeners : Action (List Listener) := Action.ofTotal registered

/-- Enter a phase. -/
def enter (phase : Phase) : Action Unit := Action.ofTotal (.request (.enter phase))

/-! ### The stages -/

/-- The files among which those are picked that are scanned. -/
def candidates (scan : Scan) : Action (List Handle) :=
  match scan.targets with
  | .files handles => pure handles
  | .roots roots => Discovery.flatten scan.cwd true roots

/-- The files that are picked among these. -/
def pick (scan : Scan) (handles : List Handle) : Action (List Handle) :=
  match scan.picker with
  | .rule filter => pure (filter.select scan.cwd handles)
  | .provided => Action.ofProgram (.request (.pick handles))

/-- The eligible files among those that are scanned. -/
def resolveFiles (scan : Scan) : Action (List Handle) := do
  let handles ← scan.candidates
  scan.pick handles

/-- Find the files and tell the listeners. -/
def start (scan : Scan) : Action (List Handle) := do
  enter .discovering
  checkCancelled true
  let files ← scan.resolveFiles
  tellStart files (← listeners)
  pure files

/-- The lines that are printed about paths. -/
def invoke (scan : Scan) (paths : List String) : Action (List String) :=
  match scan.runner with
  | .tool => Tool.run scan.settings scan.project.base paths true
  | .provided => Action.ofProgram (.request (.invoke scan.project.base paths))

/-- Run the tool over paths: the lines that are printed. -/
def print (scan : Scan) (paths : List String) : Action (List String) := do
  enter .invoking
  checkCancelled true
  scan.invoke paths

/-- What attribution needs to know of the scan. -/
def setup (scan : Scan) : Attribution.Setup :=
  { tabWidth := scan.settings.tabWidth, cwd := scan.cwd, base := some scan.project.base
    withDocuments := true }

/-- The report of a scan over what was printed. -/
def report (scan : Scan) (id : String) (mapping : Table String Handle) (lines : List String) :
    Action Report := do
  enter .parsing
  checkCancelled true
  let problems ← Attribution.ofLines scan.setup mapping lines
  pure { id, problems }

/-- Run the tool over snapshots and attribute what it printed. -/
def check (scan : Scan) (id : String) (snapshots : List Snapshot) : Action Report := do
  let mapping := Snapshot.mapping scan.cwd snapshots
  let lines ← scan.print mapping.keys
  scan.report id mapping lines

/-- Everything up to the report, and the snapshots that were made on the way. -/
def perform (scan : Scan) (id : String) : Program (List Snapshot × Except Fault Report) := do
  match ← scan.start.attempt with
  | .error fault => pure ([], .error fault)
  | .ok [] => pure ([], .ok (.empty id))
  | .ok files =>
    .request (.enter .snapshotting)
    match ← Snapshot.makeAll scan.settings.scratchDir true files with
    | (made, .error fault) => pure (made, .error fault)
    | (made, .ok ()) => return (made, ← (scan.check id made).attempt)

/-- The outcome of a scan that ended in this way, unless the fault leaves the scan. -/
def judge (id : String) : Except Fault Report → Except Fault Outcome
  | .ok report => .ok (.success report)
  | .error (.cancelled _) => .ok (.cancelled id)
  | .error fault =>
    if fault.leaves then .error fault
    else if fault.isFailure then .ok (.failed id fault)
    else .ok (.failed id (.failed .general genericMessage (some fault)))

/-- Everything up to the outcome, after which no snapshot is left. -/
def obtain (scan : Scan) (id : String) : Action Outcome := Action.ofProgram do
  let (made, result) ← scan.perform id
  match ← (Snapshot.deleteAll made).attempt with
  | .error fault => pure (judge id (.error fault))
  | .ok () => pure (judge id result)

/-- Show and tell an outcome. -/
def announce (outcome : Outcome) : Action Unit := do
  match outcome with
  | .failed _ error =>
    enter .notifyingFailure
    Action.ofTotal (logLine .warning .scan ("Scan failed: " ++ error.message))
    Notification.ofFault error
    tellEnd (.failed error) (← listeners)
  | .cancelled id =>
    enter .notifyingCancelled
    tellEnd (.completed (.empty id)) (← listeners)
  | .success report =>
    enter .notifyingSuccess
    tellEnd (.completed report) (← listeners)

/-- Run the scan: its report, or the fault that left it. -/
def run (scan : Scan) : Program (Except Fault Report) := do
  let id ← Program.request .freshId
  match ← (scan.obtain id).attempt with
  | .error fault =>
    .request (.enter .idle)
    pure (.error fault)
  | .ok outcome =>
    .request (.conclude outcome)
    let told ← (announce outcome).attempt
    .request (.enter .idle)
    pure (told.map fun _ => outcome.report)

end Scan

end LiveCheck
