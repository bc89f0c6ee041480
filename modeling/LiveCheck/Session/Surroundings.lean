import LiveCheck.Session.State
import LiveCheck.Shell.Run

namespace LiveCheck

/-! ### How a session answers requests

Requests about files are answered from the workspace, after the steps that hooks call for. Tokens,
processes, listeners and notifications are answered from the plans of the session. A provided
runner does its steps, and may run the tool then; the tool asks for no runner, so the answers to
its requests come first. -/

namespace Session

/-- The call of the document model that a request is, and the path that it is for. -/
def callOf : Request → Option (DocumentCall × String)
  | .children path => some (.children, path)
  | .isDirectory path => some (.isDirectory, path)
  | .resolve path => some (.resolve, path)
  | .currentText h => some (.currentText, h.path)
  | .diskText h => some (.diskText, h.path)
  | .encoding h => some (.encoding, h.path)
  | _ => none

/-- Answer a request about files, with the documents of whoever asks. -/
def fromWorkspace (asker : Asker) (r : Request) : SessionM r.Reply := do
  let s ← get
  let documents := (s.ownDocuments? asker).getD s.workspace.documents
  let (reply, workspace) := (Workspace.answer r).run { s.workspace with documents }
  set { s with workspace := { workspace with documents := s.workspace.documents } }
  pure reply

/-- The first trouble of hooks, as a fault. -/
def playHooks (play : Player) : List Hook → SessionM (Except Fault Unit)
  | [] => pure (.ok ())
  | hook :: rest => do
    match ← play hook.steps with
    | .error trouble => pure (.error trouble.asFault)
    | .ok () => playHooks play rest

/-- Answer a request to the document model: the hooks of the session first. A document model that
is not the session's has no hooks. -/
def fromDocuments (play : Player) (asker : Asker) (r : Request) (failed : Fault → r.Reply) :
    SessionM r.Reply := do
  let s ← get
  let hooks := if (s.ownDocuments? asker).isSome then []
    else s.hooks.filter fun hook => some (hook.call, hook.path) = callOf r
  match ← playHooks play hooks with
  | .error fault => pure (failed fault)
  | .ok () => fromWorkspace asker r

/-! #### Processes -/

/-- Start the tool: the number of waits that will end without it. -/
def startProcess (command : List String) (directory : String) :
    SessionM (Except Fault Nat) := do
  let s ← get
  match s.process with
  | some plan =>
    seeProcess (.started command directory)
    match plan.startError with
    | some number => pure (.error (SystemError.fault number (command.headD "")))
    | none =>
      modify fun s => { s with waits := 0, completion := none }
      pure (.ok plan.waits)
  | none =>
    match Shell.start s.workspace.disk command directory with
    | .error fault => pure (.error fault)
    | .ok completion =>
      set { s with waits := 0, completion := some completion }
      pure (.ok 0)

/-- Wait once for the process, during which the session may be cancelled. -/
def waitForProcess : SessionM Unit :=
  modify fun s =>
    let waits := s.waits + 1
    { s with waits
             cancelled := s.cancelled || (s.process.bind (·.cancelAt)) = some (Int.ofNat waits) }

/-- Wait for the process until it ends. -/
def collectProcess : SessionM Completion := do
  waitForProcess
  let s ← get
  let plan := s.process.getD {}
  pure (s.completion.getD (.ofBytes plan.status plan.stdout plan.stderr))

/-- The number of every process. -/
def processNumber : Nat := 4242

/-- Kill the process: its number if that has no effect. -/
def killProcess : SessionM (Option Nat) := do
  seeProcess .killed
  pure (if ((← get).process.getD {}).stuck then some processNumber else none)

/-! #### Listeners and the user -/

/-- Tell a listener something: whether it emptied the list that it was given, and how that ended. -/
def tell (play : Player) (listener : Listener) (event : Scan.Event) (seen : Occurrence) :
    SessionM (Bool × Except Fault Unit) := do
  let plan := ((← get).reactions.get? listener).getD {}
  if event ∈ plan.missing then
    pure (false, .error (.raised .other "AttributeError" event.name))
  else
    see seen
    let result ← play (plan.steps event)
    pure (plan.clears, result.mapError Trouble.asFault)

/-- The fault of a display that is broken. -/
def displayFault : Fault := .raised .other "RuntimeError" "sink down"

/-- Show something to the user. -/
def present (display : Display) (title message : String) (error : Option Fault) :
    SessionM (Except Fault Unit) := do
  match display with
  | .kept =>
    modify fun s => { s with messages := s.messages ++ [(message, error)] }
    pure (.ok ())
  | .logged =>
    writeLog (Notification.line title message)
    pure (.ok ())
  | .broken =>
    see (.shown title message error)
    pure (.error displayFault)

/-- A name for a scan that no other scan has. -/
def freshName : SessionM String := do
  let s ← get
  set { s with named := s.named + 1 }
  pure ("scan " ++ Text.natString s.named)

/-! #### All requests -/

/-- The answer to a request, where no runner is provided. -/
def answerToTool (play : Player) (asker : Asker) : (r : Request) → SessionM r.Reply
  | .children path => fromDocuments play asker (.children path) .error
  | .isDirectory path => fromDocuments play asker (.isDirectory path) .error
  | .resolve path => fromDocuments play asker (.resolve path) .error
  | .currentText h => fromDocuments play asker (.currentText h) .error
  | .diskText h => fromDocuments play asker (.diskText h) .error
  | .encoding h => fromDocuments play asker (.encoding h) .error
  | .isCancelled => return (← get).isCancelled asker
  | .start command directory => startProcess command directory
  | .wait => waitForProcess
  | .collect => collectProcess
  | .kill => killProcess
  | .lockListeners | .unlockListeners => pure ()
  | .listeners => return (((← get).planned? asker).map (·.listeners)).getD []
  | .tellStart listener files => do
    let (clears, result) ← tell play listener .starting (.started listener files)
    pure (if clears then [] else files, result)
  | .tellEnd listener ending =>
    return (← tell play listener (Scan.eventOf ending) (.ended listener ending)).2
  | .present title message error => do present ((← get).displayFor asker) title message error
  | .log line => writeLog line
  | .freshId => freshName
  | .enter phase => modify (modifyPlanned asker fun p => { p with phases := p.phases ++ [phase] })
  | .conclude outcome => modify (modifyPlanned asker fun p => { p with outcome := some outcome })
  | r => fromWorkspace asker r

/-- The plan for the next call of a provided runner: the plans in order, and the last of them for
all further calls. -/
def nextPlan (asker : Asker) : SessionM (RunnerPlan Step) := do
  let s ← get
  set { s with calls := s.calls + 1 }
  let plans := ((s.planned? asker).map (·.plans)).getD []
  pure (plans.getD (min s.calls (plans.length - 1)) {})

/-- A provided runner is called: its plan. -/
def beginRunner (asker : Asker) (root : String) (paths : List String) :
    SessionM (RunnerPlan Step) := do
  let plan ← nextPlan asker
  let s ← get
  see (.invoked root (paths.map fun path => (path, s.bytes? path)))
  pure plan

/-- A provided runner does what was planned: the lines for the paths. -/
def finishRunner (play : Player) (asker : Asker) (plan : RunnerPlan Step) (root : String)
    (paths : List String) : SessionM (Except Fault (List String)) := do
  match ← play plan.steps with
  | .error trouble => pure (.error trouble.asFault)
  | .ok () =>
    match plan.process with
    | none => pure (.ok plan.lines)
    | some process =>
      modify fun s => { s with process := some process }
      let settings := (← get).settings
      (Tool.run settings root paths true).attempt.runWith (answerToTool play asker)

/-- The answer to a request. -/
def answer (play : Player) (asker : Asker) : (r : Request) → SessionM r.Reply
  | .invoke root paths => do
    let plan ← beginRunner asker root paths
    finishRunner play asker plan root paths
  | r => answerToTool play asker r

/-- Do what an action says. -/
def perform {α : Type} (play : Player) (asker : Asker) (action : Action α) :
    SessionM (Except Fault α) :=
  action.attempt.runWith (answer play asker)

end Session

end LiveCheck
