import LiveCheck.Service
import LiveCheck.Session.Step
import LiveCheck.Workspace

namespace LiveCheck

/-! ### The state of a session

The state holds the workspace, what was planned for everybody who takes part, the scans and the
service with what has become of them, and a record of what could be seen during a step. -/

/-- What leaves a step that does not end well: a fault, or values that are no settings. -/
inductive Trouble where
  | fault (f : Fault)
  | rejected (r : Settings.Rejection)

/-- The fault that a trouble is for those who know nothing of settings. -/
def Trouble.asFault : Trouble → Fault
  | fault f => f
  | rejected (.refused refusals) => .badValue (Settings.report refusals)
  | rejected (.noParts kind) => Settings.noPartsFault kind

/-- Where the user is shown something. -/
inductive Display where
  /-- Everything is kept until somebody asks for it. -/
  | kept
  /-- Everything goes to the log. -/
  | logged
  /-- Nothing can be shown. -/
  | broken
deriving DecidableEq, Repr

/-- A snapshot, and whether its path leads to something. -/
abbrev SnapshotView := Snapshot × Bool

/-- Something that could be seen during a step. -/
inductive Occurrence where
  | started (listener : Listener) (files : List Handle)
  | ended (listener : Listener) (ending : Ending)
  /-- A provided runner was called with paths; the bytes of those that were files. -/
  | invoked (root : String) (files : List (String × Option (List UInt8)))
  | inSet (snapshots : List SnapshotView)
  | shown (title message : String) (error : Option Fault)

/-- What happened to a process. -/
inductive ProcessEvent where
  | started (command : List String) (directory : String)
  | killed
deriving DecidableEq, Repr

/-- A scan with those who take part in it. -/
structure Planned where
  scan : Scan
  listeners : List Listener
  plans : List (RunnerPlan Step)
  /-- The phases that the scan has entered. -/
  phases : List Phase := []
  outcome : Option Outcome := none

/-- On whose behalf a request is answered. -/
inductive Asker where
  /-- A step. -/
  | session
  /-- A scan that a step calls. -/
  | scan (name : String)
  /-- A scan of the service. -/
  | service (number : ScanNumber)
  /-- The command line. -/
  | commandLine
deriving DecidableEq, Repr

/-- A scan of the service whose runner stands before a closed gate. -/
structure Gated where
  number : ScanNumber
  plan : RunnerPlan Step
  root : String
  paths : List String
  next : Except Fault (List String) → Program (Except Fault Report)

/-- The service of a session, and the scans that it has accepted. -/
structure Background where
  service : Service := {}
  pool : Pool
  settings : Settings
  /-- What a provided runner does; without it, scans run the tool. -/
  runner : Option (List (RunnerPlan Step))
  gates : List String
  opened : List String := []
  /-- The documents of the service, if it does not share those of the session. -/
  documents : Option Documents
  planned : Table ScanNumber Planned := []
  gated : List Gated := []

/-- The state of a session. -/
structure Session where
  workspace : Workspace
  environment : String → Option String
  project : Project
  settings : Settings
  hooks : List Hook
  reactions : Table Listener ListenerPlan
  display : Display
  /-- The process that is started next; without one, commands are looked up on the machine. -/
  process : Option ProcessPlan
  cancelled : Bool := false
  /-- The waits for the process that was started last. -/
  waits : Nat := 0
  /-- How the process ends that was started last, if that was no plan. -/
  completion : Option Completion := none
  /-- The calls of provided runners. -/
  calls : Nat := 0
  /-- The names that were given to scans. -/
  named : Nat := 0
  /-- What the user was shown and nobody has asked for yet. -/
  messages : List (String × Option Fault) := []
  occurrences : List Occurrence := []
  processEvents : List ProcessEvent := []
  log : List LogLine := []
  /-- All snapshots that steps have made. -/
  snapshots : List Snapshot := []
  /-- The sets by name: where copies go, and which snapshots they hold. -/
  sets : Table String (Option String × List Nat) := []
  /-- The single snapshots by name. -/
  singles : Table String Nat := []
  scans : Table String Planned := []
  background : Option Background := none

/-- A computation in a session. -/
abbrev SessionM := StateM Session

/-- What happens when steps are done: nothing leaves them, or a trouble. -/
abbrev Player := List Step → SessionM (Except Trouble Unit)

namespace Session

/-- Something could be seen. -/
def see (o : Occurrence) : SessionM Unit :=
  modify fun s => { s with occurrences := s.occurrences ++ [o] }

/-- Something happened to a process. -/
def seeProcess (e : ProcessEvent) : SessionM Unit :=
  modify fun s => { s with processEvents := s.processEvents ++ [e] }

/-- A line of the log. -/
def writeLog (line : LogLine) : SessionM Unit :=
  modify fun s => { s with log := s.log ++ [line] }

/-- Change the service. -/
def modifyBackground (f : Background → Background) : SessionM Unit :=
  modify fun s => { s with background := s.background.map f }

/-- The scan on whose behalf a request is answered. -/
def planned? (s : Session) : Asker → Option Planned
  | .scan name => s.scans.get? name
  | .service number => s.background.bind fun b => b.planned.get? number
  | _ => none

/-- Change the scan on whose behalf a request is answered. -/
def modifyPlanned (asker : Asker) (f : Planned → Planned) (s : Session) : Session :=
  match asker with
  | .scan name => { s with scans := s.scans.modify name f }
  | .service number =>
    { s with background := s.background.map fun b =>
        { b with planned := b.planned.modify number f } }
  | _ => s

/-- The documents of the asker, if they are not those of the session. -/
def ownDocuments? (s : Session) : Asker → Option Documents
  | .commandLine => some (.fresh Documents.usualEncoding)
  | .service _ => s.background.bind (·.documents)
  | _ => none

/-- Is what the asker does cancelled? -/
def isCancelled (s : Session) : Asker → Bool
  | .commandLine => false
  | .service number => (s.background.map (·.service.isCancelled number)).getD false
  | _ => s.cancelled

/-- Where the user is shown what the asker has to say. -/
def displayFor (s : Session) : Asker → Display
  | .service _ => if (s.background.bind (·.documents)).isSome then .logged else s.display
  | _ => s.display

/-- The bytes of a file; `none` if there is no file. -/
def bytes? (s : Session) (path : String) : Option (List UInt8) :=
  match s.workspace.disk.lookUp? s.workspace.cwd path with
  | some (.file bytes) => some bytes
  | _ => none

/-- The snapshots with these numbers. -/
def snapshotsAt (s : Session) (numbers : List Nat) : List Snapshot :=
  numbers.filterMap fun i => s.snapshots[i]?

/-- The snapshots with these numbers, as they can be seen. -/
def viewAt (s : Session) (numbers : List Nat) : List SnapshotView :=
  (s.snapshotsAt numbers).map fun x => (x, s.workspace.disk.has s.workspace.cwd x.path)

/-- The session in which the removal of the snapshots with these numbers was tried. -/
def retire (s : Session) (numbers : List Nat) : Session :=
  { s with snapshots := s.snapshots.mapIdx fun i x => if i ∈ numbers then x.retired else x }

end Session

end LiveCheck
