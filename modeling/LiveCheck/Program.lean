import LiveCheck.Report

namespace LiveCheck

/-! ### Programs that ask their surroundings

A scan talks to an editor, a disk, a tool and to listeners, and each of them may answer anything
or fail, at every use. So a scan is written as a program that asks questions: a tree whose inner
nodes are questions, with one branch for each answer, and whose leaves are results. What the
surroundings do is not part of the program. To run it is to choose the answers: from a state of the
world, from a script, or, in a proof, in every possible way. -/

/-- How grave a line of the log is. -/
inductive LogLevel where
  | warning
  | error
deriving DecidableEq, Repr

/-- The word for a level. -/
def LogLevel.word : LogLevel → String
  | warning => "WARNING"
  | error => "ERROR"

/-- The part of the library that a line of the log comes from. -/
inductive LogSource where
  | scan
  | snapshot
  | tool
  | notifications
deriving DecidableEq, Repr

/-- The name of a source. -/
def LogSource.name : LogSource → String
  | scan => "mypy_scan.checker.scan_files"
  | snapshot => "mypy_scan.checker.scannable_file"
  | tool => "mypy_scan.checker.runner"
  | notifications => "mypy_scan.notifications"

/-- The word in brackets that starts a line of a source. -/
def LogSource.tag : LogSource → String
  | scan => "[scan_files] "
  | snapshot => "[scannable_file] "
  | tool => "[runner] "
  | notifications => "[notifications] "

/-- A line of the log. -/
structure LogLine where
  level : LogLevel
  source : LogSource
  text : String
deriving DecidableEq, Repr

/-- A line that starts with the tag of its source. -/
def LogLine.make (level : LogLevel) (source : LogSource) (text : String) : LogLine :=
  { level, source, text := source.tag ++ text }

/-- Somebody who follows scans. A listener is known by the way it is shown. -/
structure Listener where
  shown : String
deriving DecidableEq, Repr

/-- What listeners are told at the end of a scan. -/
inductive Ending where
  | completed (report : Report)
  | failed (error : Fault)
deriving DecidableEq, Repr

/-- The output of a tool that has ended. -/
structure Completion where
  status : Int
  stdout : String
  stderr : String
deriving DecidableEq, Repr

/-- What a program may ask for. -/
inductive Request where
  /-- The paths of what a directory holds, in the document model. -/
  | children (path : String)
  /-- Is this a directory, for the document model? -/
  | isDirectory (path : String)
  /-- The handle of a file, in the document model. -/
  | resolve (path : String)
  /-- The text of a file as the editor shows it. -/
  | currentText (h : Handle)
  /-- The text of a file on the disk. -/
  | diskText (h : Handle)
  /-- The encoding of a file. -/
  | encoding (h : Handle)
  /-- Begin to read documents: nobody writes them until `unlock`. -/
  | lock
  /-- Stop reading documents. -/
  | unlock
  /-- Pick the files to scan among these. -/
  | pick (handles : List Handle)
  /-- The path with all links followed. -/
  | realPath (path : String)
  /-- A number of directories that no chain of different directories exceeds. -/
  | directoryBound
  /-- Is there a file of this path on the disk? -/
  | isFile (path : String)
  /-- Create an empty file with a fresh name between `stem` and `extension`. -/
  | createTemporary (stem extension : String) (directory : Option String)
  /-- Write the text to the file that was just created. -/
  | writeTemporary (path text encoding : String)
  /-- Remove a file. -/
  | remove (path : String)
  /-- Is the scan cancelled? -/
  | isCancelled
  /-- Run the tool on these paths: the lines that it prints. -/
  | invoke (root : String) (paths : List String)
  /-- Start a process: how many waits for it will end without it. -/
  | start (command : List String) (directory : String)
  /-- Wait for the process, which does not end meanwhile. -/
  | wait
  /-- Wait for the process, which ends. -/
  | collect
  /-- Kill the process and wait for it: the number of a process that does not end. -/
  | kill
  /-- Take the lock of the list of listeners: nobody registers until `unlockListeners`. -/
  | lockListeners
  /-- The listeners that are registered now. -/
  | listeners
  /-- Give the lock of the list of listeners back. -/
  | unlockListeners
  /-- Tell a listener that the scan starts with these files. -/
  | tellStart (listener : Listener) (files : List Handle)
  /-- Tell a listener how the scan ended. -/
  | tellEnd (listener : Listener) (ending : Ending)
  /-- Show something to the user. -/
  | present (title message : String) (error : Option Fault)
  /-- Write a line to the log. -/
  | log (line : LogLine)
  /-- A fresh name for a scan. -/
  | freshId
  /-- The scan enters a phase. -/
  | enter (phase : Phase)
  /-- The scan has this outcome. -/
  | conclude (outcome : Outcome)
deriving DecidableEq, Repr

/-- The answers to a request. Those that come from outside may be faults. A listener that is told
the files of a scan gets a list that it may change; its answer holds what is left of the list. -/
@[reducible]
def Request.Reply : Request → Type
  | children _ => Except Fault (List String)
  | isDirectory _ => Except Fault Bool
  | resolve _ => Except Fault (Option Handle)
  | currentText _ => Except Fault String
  | diskText _ => Except Fault (Option String)
  | encoding _ => Except Fault String
  | lock | unlock => Except Fault Unit
  | pick _ => Except Fault (List Handle)
  | realPath _ => Except Fault String
  | directoryBound => Nat
  | isFile _ => Bool
  | createTemporary _ _ _ => Except Fault String
  | writeTemporary _ _ _ => Except Fault Unit
  | remove _ => Except Fault Unit
  | isCancelled => Bool
  | invoke _ _ => Except Fault (List String)
  | start _ _ => Except Fault Nat
  | wait | lockListeners | unlockListeners => Unit
  | collect => Completion
  | kill => Option Nat
  | listeners => List Listener
  | tellStart _ _ => List Handle × Except Fault Unit
  | tellEnd _ _ => Except Fault Unit
  | present _ _ _ => Except Fault Unit
  | log _ => Unit
  | freshId => String
  | enter _ => Unit
  | conclude _ => Unit

/-- The answer to a request where nothing is there and nothing happens. -/
def Request.nothing : (r : Request) → r.Reply
  | children _ => .ok []
  | isDirectory _ => .ok false
  | resolve _ | diskText _ => .ok none
  | currentText _ | encoding _ => .ok ""
  | realPath path => .ok path
  | createTemporary stem extension _ => .ok (stem ++ extension)
  | writeTemporary _ _ _ | remove _ | tellEnd _ _ | present _ _ _ | lock | unlock => .ok ()
  | pick handles => .ok handles
  | wait | lockListeners | unlockListeners | log _ | enter _ | conclude _ => ()
  | directoryBound => 0
  | isFile _ | isCancelled => false
  | invoke _ _ => .ok []
  | start _ _ => .ok 0
  | collect => { status := 0, stdout := "", stderr := "" }
  | kill => none
  | listeners => []
  | tellStart _ files => (files, .ok ())
  | freshId => ""

/-- A program with results in `α`. -/
inductive Program (α : Type) : Type where
  | done (a : α)
  | ask (r : Request) (next : r.Reply → Program α)

namespace Program

variable {α β : Type}

/-- Go on with the result of a program. -/
def bind : Program α → (α → Program β) → Program β
  | done a, f => f a
  | ask r next, f => ask r fun reply => (next reply).bind f

instance : Monad Program where
  pure := done
  bind := bind

/-- The program of one request. -/
def request (r : Request) : Program r.Reply := ask r done

/-- Run a program, with requests answered by the actions of a monad. -/
def runWith {m : Type → Type} [Monad m] (answer : (r : Request) → m r.Reply) : Program α → m α
  | done a => pure a
  | ask r next => do
    let reply ← answer r
    (next reply).runWith answer

/-- A request together with the answer that it got. -/
structure Exchange where
  request : Request
  reply : request.Reply

/-- `Runs p trace a`: the program ends with `a` when its requests are answered as in the trace. -/
inductive Runs : Program α → List Exchange → α → Prop where
  | done (a : α) : Runs (.done a) [] a
  | ask {r : Request} {next : r.Reply → Program α} {trace : List Exchange} {a : α}
      (reply : r.Reply) (rest : Runs (next reply) trace a) :
      Runs (.ask r next) (⟨r, reply⟩ :: trace) a

theorem bind_done (p : Program α) : p.bind done = p := by
  induction p with
  | done a => rfl
  | ask r next ih => exact congrArg (ask r) (funext ih)

theorem bind_assoc {γ : Type} (p : Program α) (f : α → Program β) (g : β → Program γ) :
    (p.bind f).bind g = p.bind fun a => (f a).bind g := by
  induction p with
  | done a => rfl
  | ask r next ih => exact congrArg (ask r) (funext ih)

instance : LawfulMonad Program :=
  LawfulMonad.mk' Program (fun p => bind_done p) (fun _ _ => rfl) fun p f g => bind_assoc p f g

end Program

/-- A program that may end with a fault. -/
abbrev Action (α : Type) := ExceptT Fault Program α

namespace Action

variable {α : Type}

/-- The action of a request whose answer may be a fault. -/
def ofProgram (p : Program (Except Fault α)) : Action α := ExceptT.mk p

/-- The action of a program without faults. -/
def ofTotal (p : Program α) : Action α := ExceptT.lift p

/-- The program that ends with the fault of an action, or with its result. -/
def attempt (a : Action α) : Program (Except Fault α) := ExceptT.run a

/-- The result of a computation without requests. -/
def ofExcept (e : Except Fault α) : Action α := ExceptT.mk (pure e)

end Action

/-- How something ends that was done while the documents were locked: a fault of the lock comes
after everything else and takes its place. -/
def unlockedWith {α : Type} (result : Except Fault α) : Except Fault Unit → Except Fault α
  | .ok () => result
  | .error fault => .error fault

/-- Fail if the scan is cancelled. A scan that cannot be cancelled never fails here. -/
def checkCancelled (cancellable : Bool) : Action Unit := do
  if cancellable then
    let stop : Bool ← Action.ofTotal (.request .isCancelled)
    if stop then throw .scanCancelled

/-- Write a line to the log. -/
def logLine (level : LogLevel) (source : LogSource) (text : String) : Program Unit :=
  .request (.log (.make level source text))

end LiveCheck
