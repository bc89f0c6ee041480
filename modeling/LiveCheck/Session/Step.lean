import LiveCheck.Attribution
import LiveCheck.CommandLine.Run
import LiveCheck.Disk.Basic
import LiveCheck.Submission

namespace LiveCheck

/-! ### What is done in a session

A session is an editor at work: files and buffers are changed, scans are planned and run, and
whoever takes part in a scan reacts. All of it is written down as steps. The document model, the
listeners and the runners of a session take part through steps of their own, which are done in the
middle of whatever calls them. So a step may hold steps. -/

/-- A process that plays the tool. -/
structure ProcessPlan where
  /-- The system error with which the process fails to start. -/
  startError : Option Nat := none
  /-- The number of waits that end without the process. -/
  waits : Nat := 0
  /-- The wait during which the session is cancelled, counted from one. -/
  cancelAt : Option Int := none
  status : Int := 0
  stdout : List UInt8 := []
  stderr : List UInt8 := []
  /-- Does the process survive a kill? -/
  stuck : Bool := false
deriving DecidableEq, Repr

/-- What a provided runner does when it is called: steps, and then it runs the tool, or it knows
the lines itself. -/
structure RunnerPlan (σ : Type) where
  steps : List σ := []
  process : Option ProcessPlan := none
  lines : List String := []

/-- One step of a session. Scans, sets of snapshots and single snapshots are known by names that
the session gives them; a scan without runner plans runs the tool. -/
inductive Step where
  /-- Put an entry on the disk, with the directories that lead to it. -/
  | write (path : String) (entry : Entry)
  /-- Remove a file, or a directory with everything in it. -/
  | remove (path : String)
  /-- List everything under a directory. -/
  | tree (path : String)
  | raise (fault : Fault)
  /-- Cancel the scans of the session. -/
  | cancel
  | edit (path text : String) (encoding : Option String)
  | discard (h : Handle)
  | save (h : Handle)
  | isModified (h : Handle)
  | currentText (h : Handle)
  | diskText (h : Handle)
  | encoding (h : Handle)
  | children (path : String)
  | isDirectory (path : String)
  | resolve (path : String)
  /-- Hold the lock of the documents for a moment. -/
  | holdLock (writing : Bool)
  /-- List the files under roots. -/
  | flatten (roots : List Root) (cancellable : Bool)
  /-- List the eligible files; without a filter, those of the settings. -/
  | select (filter : Option Filter) (handles : List Handle)
  | newSet (set : String) (scratch : Option String)
  /-- Make the snapshots of files, as part of a set. -/
  | snapshots (set : String) (handles : List Handle) (cancellable : Bool)
  | snapshotsOf (set : String)
  | mappingOf (set : String)
  | deleteSet (set : String)
  /-- Make the snapshots of files, do steps, and delete the set. -/
  | withSet (set : String) (handles : List Handle) (cancellable : Bool) (steps : List Step)
  | newSnapshot (name : String) (snapshot : Snapshot) (set : Option String)
  | deleteSnapshot (name : String)
  | locateConfig (root : String) (configured : Option String)
  /-- The command of the tool; without a root, that of the project. -/
  | command (root : Option String) (paths : List String)
  | runTool (root : Option String) (paths : List String) (cancellable : Bool)
      (process : Option ProcessPlan)
  /-- Attribute lines to files; without a width of tabs, with that of the settings. -/
  | attributeTo (lines : List String) (mapping : Table String Handle) (base : Option String)
      (tabWidth : Option Int) (withDocuments : Bool)
  | newScan (scan : String) (targets : Option Targets) (filter : Option Filter)
      (listeners : List Listener) (defaults : Bool) (runner : Option (List (RunnerPlan Step)))
  | callScan (scan : String)
  | addListener (scan : String) (listener : Listener)
  | removeListener (scan : String) (listener : Listener)
  /-- Begin a service. A provided runner stops at a gate that is closed. -/
  | newService (gates : List String) (defaults : Bool) (runner : Option (List (RunnerPlan Step)))
  | follow (listener : Listener)
  | unfollow (listener : Listener)
  | submit (submission : Submission) (filter : Option Filter)
  /-- Submit a scan, and take its result. -/
  | await (submission : Submission) (filter : Option Filter)
  | openGate (gate : String)
  | future (index : Nat)
  | withdraw (index : Nat)
  | cancelAll
  | shutDown (wait cancel : Bool)
  /-- Do steps, and then shut the service down. -/
  | withService (steps : List Step)
  | serviceState
  | commandLine (arguments : List String) (environment : String → Option String)
      (process : Option ProcessPlan)

/-- A call of the document model. -/
inductive DocumentCall where
  | children
  | isDirectory
  | resolve
  | currentText
  | diskText
  | encoding
deriving DecidableEq, Repr

/-- Steps that are done before a call of the document model for one path. -/
structure Hook where
  call : DocumentCall
  path : String
  steps : List Step

/-- How a listener reacts. -/
structure ListenerPlan where
  /-- The events for which the listener has no method. -/
  missing : List Scan.Event := []
  /-- Does the listener empty the list of files that it is given? -/
  clears : Bool := false
  steps : Scan.Event → List Step := fun _ => []

end LiveCheck
