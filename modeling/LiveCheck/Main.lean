import LiveCheck.CommandLine.Run
import LiveCheck.Documents

/-!
The command line. A scan asks its questions, and they are answered from the machine that the
program runs on. The program starts no other one: what the tool has printed about the project is
read from the standard input.
-/

open LiveCheck

/-- The fault of a call of the machine that failed for a path. -/
def faultFor (path : String) : IO.Error → Fault
  | .noFileOrDirectory _ _ _ => SystemError.fault SystemError.noEntry path
  | .permissionDenied _ _ _ => SystemError.fault SystemError.accessDenied path
  | .inappropriateType _ _ _ => SystemError.fault SystemError.notDirectory path
  | .alreadyExists _ _ _ => SystemError.fault SystemError.alreadyExists path
  | e => .raised .system "OSError" (toString e)

/-- The result of a call for a path, or its fault. -/
def attempt {α : Type} (path : String) (call : IO α) : IO (Except Fault α) := do
  try
    let a ← call
    pure (.ok a)
  catch e => pure (.error (faultFor path e))

/-- The kind of what stands at a path. -/
def kindAt (path : String) : IO (Option IO.FS.FileType) := do
  try
    let data ← (← IO.FS.realPath path).metadata
    pure (some data.type)
  catch _ => pure none

/-- Is there something of this kind at a path? -/
def isOf (kind : IO.FS.FileType) (path : String) : IO Bool := return (← kindAt path) == some kind

/-- The text of a file; `none` if nothing is there. -/
def textAt (path : String) : IO (Except Fault (Option String)) := do
  if (← kindAt path).isNone then pure (.ok none)
  else
    match ← attempt path (IO.FS.readBinFile path) with
    | .error fault => pure (.error fault)
    | .ok bytes => pure do
      let codec ← Encoding.Codecs.builtin.find Documents.usualEncoding
      let text ← codec.decode bytes.toList
      .ok (some (String.ofList text))

/-- The paths of what a directory holds. -/
def childrenAt (path : String) : IO (Except Fault (List String)) := attempt path do
  let entries ← (← IO.FS.realPath path).readDir
  pure (entries.toList.map fun entry => Path.join path entry.fileName)

/-- Print a text to the error output. -/
def complain (text : String) : IO Unit := do (← IO.getStderr).putStr text

/-- The answer of the machine to a request of the program. -/
def answer (cwd : String) : (r : Request) → IO r.Reply
  | .children path => childrenAt path
  | .isDirectory path => return .ok (← isOf .dir path)
  | .resolve path => do
    let h := Handle.forPath cwd path
    return .ok (if ← isOf .file h.path then some h else none)
  | .currentText h => do
    match ← textAt h.path with
    | .ok (some text) => pure (.ok text)
    | .ok none => pure (.error (.noSuchDocument h.path))
    | .error fault => pure (.error fault)
  | .diskText h => textAt h.path
  | .encoding _ => pure (.ok Documents.usualEncoding)
  | .realPath path => attempt path do
    let real ← IO.FS.realPath path
    pure real.toString
  | .directoryBound => pure Disk.maxPath
  | .isFile path => isOf .file path
  | .collect => do
    let printed ← (← IO.getStdin).readToEnd
    pure { status := 0, stdout := printed, stderr := "" }
  | .log line => complain (line.level.word ++ ": " ++ line.text ++ "\n")
  | .freshId => pure "scan"
  | r => pure r.nothing

/-- The environment variables of the settings that are set. -/
def environment : IO (String → Option String) := do
  let names := Setting.all.map Setting.environmentName
  let values ← names.mapM fun name => return (name, ← IO.getEnv name)
  pure fun name => (values.find? fun entry => entry.1 = name).bind (·.2)

/-- Run the program. -/
def main (arguments : List String) : IO UInt32 := do
  let cwd := (← IO.currentDir).toString
  let action := CommandLine.run (← environment) cwd arguments
  match ← action.attempt.runWith (answer cwd) with
  | .ok finish =>
    IO.print finish.stdout
    complain finish.stderr
    pure (UInt32.ofNat finish.status)
  | .error fault =>
    complain (fault.className ++ ": " ++ fault.message ++ "\n")
    pure 1
