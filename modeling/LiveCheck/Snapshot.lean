import LiveCheck.Program

namespace LiveCheck

/-! ### Snapshots: what the tool reads

The tool reads the disk. A file whose text in the editor is its text on the disk is read where it
is; of any other file a temporary copy is written. All texts of one set are read while the
documents are locked, so they belong together. The copies are removed when the scan is over,
whatever happened. -/

/-- A file together with the path that the tool reads. -/
structure Snapshot where
  handle : Handle
  path : String
  /-- Is the path a copy that has to be removed? -/
  temporary : Bool
  /-- Has its removal been tried? -/
  deleted : Bool := false
deriving DecidableEq, Repr

namespace Snapshot

/-- The path of the snapshot in normal form. -/
def absolutePath (cwd : String) (s : Snapshot) : String := Path.normalize cwd s.path

/-- The snapshot as it is shown to a programmer. -/
def display (s : Snapshot) : String :=
  "ScannableFile(handle=" ++ s.handle.display ++ ", materialized_path=" ++
    Text.quoteString s.path ++ ", is_temporary=" ++ (if s.temporary then "True" else "False") ++ ")"

/-- Is there a copy whose removal has not been tried? -/
def isPending (s : Snapshot) : Bool := s.temporary && !s.deleted

/-- The snapshot once its removal has been tried. -/
def retired (s : Snapshot) : Snapshot := if s.temporary then { s with deleted := true } else s

/-- Remove the copy, if there is one and its removal has not been tried. A copy that is gone is
fine, and a system call that fails is noted in the log. -/
def delete (s : Snapshot) : Action Unit :=
  if s.isPending then do
    match ← Action.ofTotal (.request (.remove s.path)) with
    | .ok () => pure ()
    | .error fault =>
      if fault.isIn .missing then pure ()
      else if fault.isSystem then
        Action.ofTotal (logLine .warning .snapshot
          ("Failed to delete snapshot " ++ s.path ++ " for " ++ s.handle.path ++ ": " ++
            fault.message))
      else throw fault
  else pure ()

/-- Remove the copies of a set. An error is noted in the log and does not keep the other copies
from being removed; only a fault that ends the program does. -/
def deleteAll : List Snapshot → Action Unit
  | [] => pure ()
  | s :: rest => do
    match ← Action.ofTotal s.delete.attempt with
    | .ok () => pure ()
    | .error fault =>
      if fault.isFatal then throw fault
      else
        Action.ofTotal (logLine .warning .snapshot
          ("Cleanup of " ++ s.handle.path ++ " failed: " ++ fault.message))
    deleteAll rest

/-- The files of a set by the paths that the tool reads. -/
def mapping (cwd : String) (files : List Snapshot) : Table String Handle :=
  Table.ofPairs (files.map fun s => (s.absolutePath cwd, s.handle))

/-! ### Making snapshots -/

/-- A failure to make a file ready. -/
def validationFailure (h : Handle) (message : String) (cause : Option Fault) : Fault :=
  .failed (.validation (some h.path)) message cause

/-- The text of a file in the editor and on the disk. -/
def readTexts (h : Handle) : Action (String × Option String) :=
  tryCatch
    (do
      let current ← Action.ofProgram (.request (.currentText h))
      let onDisk ← Action.ofProgram (.request (.diskText h))
      pure (current, onDisk))
    fun fault =>
      if fault.isUnreadable then
        throw (validationFailure h ("Cannot read " ++ h.path ++ ": " ++ fault.message)
          (some fault))
      else throw fault

/-- Make an empty copy of a file: its path. -/
def createCopy (scratch : Option String) (h : Handle) : Action String := do
  let (stem, extension) := Path.splitExtension h.name
  match ← Action.ofTotal (.request (.createTemporary (stem ++ "_") extension scratch)) with
  | .ok path => pure path
  | .error fault =>
    if fault.isSystem then
      throw (validationFailure h
        ("Cannot create snapshot for " ++ h.path ++ ": " ++ fault.message) (some fault))
    else throw fault

/-- Write a text to the copy of a file. A copy that cannot be written is removed again when the
fault is one that writing a text may have. -/
def fillCopy (s : Snapshot) (text : String) : Action Unit :=
  tryCatch
    (do
      let encoding ← Action.ofProgram (.request (.encoding s.handle))
      Action.ofProgram (.request (.writeTemporary s.path text encoding)))
    fun fault =>
      if fault.isUnwritable then do
        s.delete
        throw (validationFailure s.handle
          ("Cannot write snapshot for " ++ s.handle.path ++ ": " ++ fault.message) (some fault))
      else throw fault

/-- Write a copy of a file. -/
def writeCopy (scratch : Option String) (h : Handle) (text : String) : Action Snapshot := do
  let path ← createCopy scratch h
  let s : Snapshot := { handle := h, path, temporary := true }
  s.fillCopy text
  pure s

/-- The files that were never saved, by their paths, after one more file. Two different ones of
one path cannot be told apart by the tool. -/
def claimPath (unsaved : Table String Handle) (h : Handle) : Except Fault (Table String Handle) :=
  match unsaved.get? h.path with
  | some other =>
    if other = h then .ok unsaved
    else .error (validationFailure h
      ("Unsaved files collide on path: " ++ other.path ++ " / " ++ h.path) none)
  | none => .ok (unsaved.put h.path h)

/-- The same where only a file that is not on the disk counts. -/
def claim (unsaved : Table String Handle) (h : Handle) :
    (onDisk : Option String) → Except Fault (Table String Handle)
  | none => claimPath unsaved h
  | some _ => .ok unsaved

/-- The snapshot of a file with these texts: the file itself, if they are the same. -/
def place (scratch : Option String) (h : Handle) (current : String) (onDisk : Option String) :
    Action Snapshot :=
  if onDisk = some current then pure { handle := h, path := h.path, temporary := false }
  else writeCopy scratch h current

/-- Make the snapshot of one file. -/
def make (scratch : Option String) (cancellable : Bool) (unsaved : Table String Handle)
    (h : Handle) : Action (Snapshot × Table String Handle) := do
  checkCancelled cancellable
  let (current, onDisk) ← readTexts h
  let unsaved ← Action.ofExcept (claim unsaved h onDisk)
  let s ← place scratch h current onDisk
  pure (s, unsaved)

/-- Make the snapshots of files one after the other, until one cannot be made: the snapshots that
were made, and the fault. -/
def makeEach (scratch : Option String) (cancellable : Bool) (unsaved : Table String Handle) :
    List Handle → Program (List Snapshot × Except Fault Unit)
  | [] => pure ([], .ok ())
  | h :: rest => do
    match ← (make scratch cancellable unsaved h).attempt with
    | .error fault => pure ([], .error fault)
    | .ok (s, unsaved) =>
      let (made, ending) ← makeEach scratch cancellable unsaved rest
      pure (s :: made, ending)

/-- Make the snapshots of files while the documents are locked. -/
def makeAll (scratch : Option String) (cancellable : Bool) (handles : List Handle) :
    Program (List Snapshot × Except Fault Unit) := do
  match ← Program.request .lock with
  | .error fault => pure ([], .error fault)
  | .ok () =>
    let (made, ending) ← makeEach scratch cancellable [] handles
    let unlocked ← Program.request .unlock
    pure (made, unlockedWith ending unlocked)

end Snapshot

end LiveCheck
