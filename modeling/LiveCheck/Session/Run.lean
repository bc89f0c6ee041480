import LiveCheck.Lock
import LiveCheck.Session.Moving

namespace LiveCheck

/-! ### How steps are done

Every step has an answer, or a trouble leaves it. A step is done at once; what a service has to do
because of it is done before the next one. The steps that a hook, a listener or a runner calls for
are done in the middle of another step, and nobody sees their answers. -/

/-- A scan that a step has called. -/
structure Call where
  result : Except Fault Report
  /-- The phases that the scan entered during the call. -/
  phases : List Phase
  /-- The outcome of the last call that had one. -/
  outcome : Option Outcome
  messages : List (String × Option Fault)

/-- What can be seen of a service. -/
structure ServiceView where
  last : Option Report
  lastOutcome : Option Outcome
  isScanning : Bool
  messages : List (String × Option Fault)

/-- The answer to a step. -/
inductive Answer where
  | nothing
  | flag (b : Bool)
  | count (n : Nat)
  | text (s : Option String)
  | texts (xs : List String)
  | tree (entries : List (String × Entry))
  | snapshots (views : List SnapshotView)
  | mapping (files : Table String Handle)
  /-- The readers and the writer of a lock, while it is held and afterwards. -/
  | lock (during after : Nat × Bool)
  | problems (p : Table Handle (List Diagnostic))
  | call (c : Call)
  | settings (s : Settings)
  | report (r : Report)
  | service (v : ServiceView)
  | finish (f : CommandLine.Finish)

/-- A step that is being done. -/
abbrev Doing := ExceptT Trouble SessionM

namespace Session

/-- A fault leaves the step. -/
def fail {α : Type} (f : Fault) : Doing α := throw (.fault f)

/-- The result of a computation, or its fault. -/
def take {α : Type} : Except Fault α → Doing α
  | .ok a => pure a
  | .error f => fail f

/-- Do what an action says. -/
def act {α : Type} (play : Player) (asker : Asker) (action : Action α) : Doing α := do
  take (← perform play asker action)

/-- Ask the document model of the session. -/
def ask {α : Type} (play : Player) (p : Program (Except Fault α)) : Doing α :=
  act play .session (Action.ofProgram p)

/-- Run a program, all of whose requests are answered by the session. -/
def run {α : Type} (play : Player) (asker : Asker) (p : Program α) : Doing α :=
  ExceptT.lift (p.runWith (answer play asker))

/-- Do something, and then something else whatever happens; the trouble of the first is kept. -/
def finally_ {α : Type} (body : Doing α) (last : Doing Unit) : Doing α := do
  let result ← ExceptT.lift body.run
  last
  ExceptT.mk (pure result)

/-! #### Files -/

/-- The disk with the directories that lead to a path. -/
def withParents (disk : Disk) (cwd path : String) : Disk :=
  let parents := (Path.components (Path.normalizeChars cwd.toList path.toList)).dropLast
  let places := (List.range (parents.length + 1)).map parents.take
  places.foldl (fun disk place => disk.makeDirectory cwd (Disk.pathOf place)) disk

/-- The disk with an entry at a path. A file that is there gets new bytes, and a directory that is
there stays. -/
def placeEntry (disk : Disk) (cwd path : String) (entry : Entry) : Except Fault Disk := do
  let disk := withParents disk cwd path
  match entry with
  | .file bytes =>
    let (place, disk) ← disk.openEmpty cwd path
    .ok (disk.fill place bytes)
  | .directory => .ok (disk.makeDirectory cwd path)
  | .link target =>
    match ← disk.locateOrFault cwd path false with
    | .absent directory name => .ok (disk.putEntry (directory ++ [name]) (.link target))
    | .found _ => .error (SystemError.fault SystemError.alreadyExists path)

/-- The disk without what stands at a path. -/
def removeEntry (disk : Disk) (cwd path : String) : Except Fault Disk := do
  match ← disk.locateOrFault cwd path false with
  | .found place => .ok (disk.removeTree place)
  | .absent _ _ => .error (SystemError.fault SystemError.noEntry path)

/-- Everything under a directory, by its path from there, in order. -/
def treeUnder (disk : Disk) (cwd path : String) : List (String × Entry) :=
  match disk.locate cwd path true with
  | .ok (.found place) =>
    let inside := disk.entries.filterMap fun (p, entry) =>
      if place.isPrefixOf p && p.length > place.length then
        some (String.ofList (Path.joinPieces (p.drop place.length)), entry)
      else none
    inside.mergeSort fun x y => x.1 ≤ y.1
  | _ => []

/-- Change the disk. -/
def changeDisk (f : Disk → String → Except Fault Disk) : Doing Answer := do
  let s ← get
  let disk ← take (f s.workspace.disk s.workspace.cwd)
  set { s with workspace := { s.workspace with disk } }
  pure .nothing

/-! #### Documents -/

/-- Change the documents of the session. -/
def changeDocuments (f : Documents → Documents) : SessionM Unit :=
  modify fun s =>
    { s with workspace := { s.workspace with documents := f s.workspace.documents } }

/-- Give a file a text that is not saved. -/
def edit (path text : String) (encoding : Option String) : Doing Answer := do
  let s ← get
  let (h, documents) := s.workspace.documents.edit s.workspace.cwd path text encoding
  set { s with workspace := { s.workspace with documents } }
  pure (.text (some h.path))

/-- Save a file. -/
def save (h : Handle) : Doing Answer := do
  let s ← get
  let (result, documents, disk) :=
    s.workspace.documents.save s.workspace.disk s.workspace.cwd h
  set { s with workspace := { s.workspace with documents, disk } }
  take result
  pure .nothing

/-- The lock of the documents while one thread holds it, and afterwards. -/
def holdLock (writing : Bool) : Answer :=
  let free : Lock Unit := {}
  let held := if writing then free.askWrite () else free.askRead ()
  let after := held.leave ()
  .lock (held.readers, held.writer) (after.readers, after.writer)

/-! #### Snapshots -/

/-- The set of a name. -/
def setNamed (s : Session) (name : String) : Option String × List Nat :=
  (s.sets.get? name).getD (none, [])

/-- Make snapshots as part of a set: their numbers. Those that were made before one failed belong
to the set too. -/
def makeSnapshots (play : Player) (set_ : String) (handles : List Handle) (cancellable : Bool) :
    Doing (List Nat) := do
  let (scratch, old) := setNamed (← get) set_
  let (made, ending) ← run play .session (Snapshot.makeAll scratch cancellable handles)
  let s ← get
  let new := (List.range made.length).map (s.snapshots.length + ·)
  set { s with snapshots := s.snapshots ++ made, sets := s.sets.put set_ (scratch, old ++ new) }
  take ending
  pure new

/-- Delete a set. -/
def deleteSet (play : Player) (name : String) : Doing Unit := do
  let s ← get
  let numbers := (setNamed s name).2
  act play .session (Snapshot.deleteAll (s.snapshotsAt numbers))
  modify fun s => s.retire numbers

/-- Make snapshots, do steps, and delete the set whatever happens. -/
def withSet (play : Player) (name : String) (handles : List Handle) (cancellable : Bool)
    (steps : List Step) : Doing Answer :=
  finally_
    (do
      let _ ← makeSnapshots play name handles cancellable
      let s ← get
      see (.inSet (s.viewAt (setNamed s name).2))
      ExceptT.mk (play steps)
      pure .nothing)
    (deleteSet play name)

/-- Give a snapshot a name, and put it into a set if one is named. -/
def newSnapshot (name : String) (snapshot : Snapshot) (set_ : Option String) : Doing Answer := do
  let s ← get
  let number := s.snapshots.length
  let sets := match set_ with
    | none => s.sets
    | some set_ =>
      let (scratch, numbers) := setNamed s set_
      s.sets.put set_ (scratch, numbers ++ [number])
  set { s with snapshots := s.snapshots ++ [snapshot], singles := s.singles.put name number, sets }
  pure (.texts [snapshot.absolutePath s.workspace.cwd, snapshot.display])

/-- Delete a single snapshot. -/
def deleteSnapshot (play : Player) (name : String) : Doing Answer := do
  let s ← get
  let numbers := (s.singles.get? name).toList
  set (s.retire numbers)
  (s.snapshotsAt numbers).forM fun snapshot => act play .session snapshot.delete
  pure .nothing

/-! #### The tool -/

/-- From now on, this process is started. -/
def useProcess : Option ProcessPlan → SessionM Unit
  | none => pure ()
  | some plan => modify fun s => { s with process := some plan }

/-- Attribute lines to files. -/
def attributeLines (play : Player) (lines : List String) (mapping : Table String Handle)
    (base : Option String) (tabWidth : Option Int) (withDocuments : Bool) : Doing Answer := do
  let s ← get
  let setup : Attribution.Setup :=
    { tabWidth := tabWidth.getD s.settings.tabWidth, cwd := s.workspace.cwd, base, withDocuments }
  return .problems (← act play .session (Attribution.ofLines setup mapping lines))

/-! #### Scans -/

/-- The settings of a scan: those of the session, or what the environment says. -/
def settingsFor (defaults : Bool) : Doing Settings := do
  let s ← get
  if defaults then
    match Settings.load s.environment fun _ => none with
    | .ok settings => pure settings
    | .error rejection => throw (.rejected rejection)
  else pure s.settings

/-- What runs over the files of scans: the tool, unless a runner is provided. -/
def runnerFor (provided : Bool) : Runner := if provided then .provided else .tool

/-- Plan a scan. -/
def newScan (name : String) (targets : Option Targets) (filter : Option Filter)
    (listeners : List Listener) (defaults : Bool) (runner : Option (List (RunnerPlan Step))) :
    Doing Answer := do
  match targets with
  | none => fail Scan.noTargetsFault
  | some targets =>
    let settings ← settingsFor defaults
    let s ← get
    let planned : Planned :=
      { scan := .of s.project settings s.workspace.cwd (runnerFor runner.isSome) filter targets
        listeners := listeners.foldl Service.withListener []
        plans := runner.getD [] }
    set { s with scans := s.scans.put name planned }
    pure .nothing

/-- What the user was shown since somebody asked. -/
def takeMessages : SessionM (List (String × Option Fault)) := do
  let s ← get
  set { s with messages := [] }
  pure s.messages

/-- Call a scan. -/
def callScan (play : Player) (name : String) : Doing Answer := do
  match (← get).scans.get? name with
  | none => pure .nothing
  | some planned =>
    let result ← run play (.scan name) planned.scan.run
    let later := ((← get).scans.get? name).getD planned
    let messages ← takeMessages
    return .call { result, phases := later.phases.drop planned.phases.length
                   outcome := later.outcome, messages }

/-- Change the listeners of a scan. -/
def changeListeners (name : String) (f : List Listener → List Listener) : Doing Answer := do
  modify (modifyPlanned (.scan name) fun p => { p with listeners := f p.listeners })
  pure .nothing

/-! #### The service -/

/-- Begin a service. -/
def newService (gates : List String) (defaults : Bool)
    (runner : Option (List (RunnerPlan Step))) : Doing Answer := do
  let settings ← settingsFor defaults
  let background : Background :=
    { pool := { workers := settings.maxWorkers }, settings, runner, gates
      documents := if defaults then some (.fresh Documents.usualEncoding) else none }
  modify fun s => { s with background := some background }
  pure (.settings settings)

/-- The fault of a session without a service. -/
def noServiceFault : Fault := .raised .other "RuntimeError" "no service"

/-- The service, which has to be there. -/
def theBackground : Doing Background := do
  match (← get).background with
  | some b => pure b
  | none => fail noServiceFault

/-- Change what the service does. -/
def changeService (f : Service → Service) : Doing Answer := do
  modifyBackground fun b => { b with service := f b.service }
  pure .nothing

/-- Submit a scan: its number. -/
def submit (play : Player) (submission : Submission) (filter : Option Filter) :
    Doing ScanNumber := do
  let b ← theBackground
  let s ← get
  let scan ← act play (.service 0)
    (submission.scan s.project b.settings s.workspace.cwd (runnerFor b.runner.isSome) filter)
  let (number, service) ← take (← theBackground).service.submit
  let planned : Planned := { scan, listeners := service.listeners, plans := b.runner.getD [] }
  modifyBackground fun b =>
    { b with service, pool := b.pool.enqueue number, planned := b.planned.put number planned }
  move play false
  pure number

/-- The number of the scan that was submitted at this index. -/
def numberAt (b : Background) (index : Nat) : Option ScanNumber := b.pool.futures.keys[index]?

/-- What has become of a scan. -/
def futureOf (b : Background) (number : ScanNumber) : Doing Answer :=
  match b.pool.futures.get? number with
  | some .pending => pure (.text (some "pending"))
  | some .running => pure (.text (some "running"))
  | some (.done report) => pure (.report report)
  | some (.failed fault) => fail fault
  | some .withdrawn => fail (.raised .other "CancelledError" "")
  | none => pure .nothing

/-- Take back a scan that has not begun. -/
def withdraw (b : Background) (number : ScanNumber) : Doing Answer := do
  let (done, pool) := b.pool.withdraw number
  modifyBackground fun b =>
    { b with pool, service := if done then b.service.forget number else b.service }
  pure (.flag done)

/-- Do steps, and shut the service down whatever happens. -/
def withService (play : Player) (steps : List Step) : Doing Answer :=
  finally_
    (do
      ExceptT.mk (play steps)
      pure (.flag true))
    (ExceptT.lift (shutDown play true true))

/-! #### All steps -/

/-- Do one step. -/
def step (play : Player) : Step → Doing Answer
  | .write path entry => changeDisk fun disk cwd => placeEntry disk cwd path entry
  | .remove path => changeDisk fun disk cwd => removeEntry disk cwd path
  | .tree path => do
    let s ← get
    pure (.tree (treeUnder s.workspace.disk s.workspace.cwd path))
  | .raise fault => fail fault
  | .cancel => do modify fun s => { s with cancelled := true }; pure .nothing
  | .edit path text encoding => edit path text encoding
  | .discard h => do changeDocuments (·.discard h); pure .nothing
  | .save h => save h
  | .isModified h => do
    let w := (← get).workspace
    return .flag (← take (w.documents.isModified w.disk w.cwd h))
  | .currentText h => return .text (some (← ask play (.request (.currentText h))))
  | .diskText h => return .text (← ask play (.request (.diskText h)))
  | .encoding h => return .text (some (← ask play (.request (.encoding h))))
  | .children path => return .texts (← ask play (.request (.children path)))
  | .isDirectory path => return .flag (← ask play (.request (.isDirectory path)))
  | .resolve path => do
    let h ← ask play (.request (.resolve path))
    pure (.text (h.map (·.path)))
  | .holdLock writing => pure (holdLock writing)
  | .flatten roots cancellable => do
    let cwd := (← get).workspace.cwd
    let files ← act play .session (Discovery.flatten cwd cancellable roots)
    pure (.texts (files.map (·.path)))
  | .select filter handles => do
    let s ← get
    let filter := filter.getD (.make s.project s.settings.extensions s.settings.allFiles)
    pure (.texts ((filter.select s.workspace.cwd handles).map (·.path)))
  | .newSet name scratch => do
    modify fun s => { s with sets := s.sets.put name (scratch, []) }
    pure .nothing
  | .snapshots name handles cancellable => do
    let new ← makeSnapshots play name handles cancellable
    pure (.snapshots ((← get).viewAt new))
  | .snapshotsOf name => do
    let s ← get
    pure (.snapshots (s.viewAt (setNamed s name).2))
  | .mappingOf name => do
    let s ← get
    pure (.mapping (Snapshot.mapping s.workspace.cwd (s.snapshotsAt (setNamed s name).2)))
  | .deleteSet name => do deleteSet play name; pure .nothing
  | .withSet name handles cancellable steps => withSet play name handles cancellable steps
  | .newSnapshot name snapshot set_ => newSnapshot name snapshot set_
  | .deleteSnapshot name => deleteSnapshot play name
  | .locateConfig root configured =>
    return .text (← run play .session (Tool.locateConfig root configured))
  | .command root paths => do
    let s ← get
    return .texts (← act play .session
      (Tool.command s.settings (root.getD s.project.base) paths))
  | .runTool root paths cancellable process => do
    useProcess process
    let s ← get
    return .texts (← act play .session
      (Tool.run s.settings (root.getD s.project.base) paths cancellable))
  | .attributeTo lines mapping base tabWidth withDocuments =>
    attributeLines play lines mapping base tabWidth withDocuments
  | .newScan name targets filter listeners defaults runner =>
    newScan name targets filter listeners defaults runner
  | .callScan name => callScan play name
  | .addListener name l => changeListeners name (Service.withListener · l)
  | .removeListener name l => changeListeners name (·.erase l)
  | .newService gates defaults runner => newService gates defaults runner
  | .follow l => changeService (·.addListener l)
  | .unfollow l => changeService (·.removeListener l)
  | .submit submission filter => do
    let _ ← submit play submission filter
    pure (.count ((← theBackground).pool.futures.length - 1))
  | .await submission filter => do
    let number ← submit play submission filter
    futureOf (← theBackground) number
  | .openGate gate => do
    modifyBackground fun b => { b with opened := gate :: b.opened }
    move play false
    pure .nothing
  | .future index => do
    let b ← theBackground
    match numberAt b index with
    | some number => futureOf b number
    | none => pure .nothing
  | .withdraw index => do
    let b ← theBackground
    match numberAt b index with
    | some number => withdraw b number
    | none => pure .nothing
  | .cancelAll => do
    let (count, service) := (← theBackground).service.cancelAll
    modifyBackground fun b => { b with service }
    pure (.count count)
  | .shutDown wait cancel => do
    shutDown play wait cancel
    move play false
    pure .nothing
  | .withService steps => withService play steps
  | .serviceState => do
    let b ← theBackground
    let messages ← takeMessages
    return .service
      { last := b.service.lastReport, lastOutcome := b.service.lastOutcome
        isScanning := b.service.isScanning, messages }
  | .commandLine arguments environment process => do
    useProcess process
    let cwd := (← get).workspace.cwd
    return .finish (← act play .commandLine (CommandLine.run environment cwd arguments))

/-- The fault of steps that set each other off without end. -/
def depthFault : Fault := .raised .other "RecursionError" "maximum recursion depth exceeded"

/-- Do steps one after the other, until trouble leaves one of them; steps may be done in the middle
of steps up to a depth. -/
def player : (depth : Nat) → Player
  | 0, _ => pure (.error (.fault depthFault))
  | depth + 1, steps =>
    (steps.forM fun s => do let _ ← step (player depth) s : Doing Unit).run

/-- The depth of steps in the middle of steps. -/
def maxDepth : Nat := 200

/-- What can be seen of a step. -/
structure Shown where
  answer : Except Trouble Answer
  occurrences : List Occurrence
  processEvents : List ProcessEvent
  log : List LogLine

/-- Do one step, and see what happens. -/
def show_ (s : Step) : SessionM Shown := do
  modify fun s => { s with occurrences := [], processEvents := [], log := [] }
  let answer ← (step (player maxDepth) s).run
  let s ← get
  pure { answer, occurrences := s.occurrences, processEvents := s.processEvents, log := s.log }

end Session

end LiveCheck
