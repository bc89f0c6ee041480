import LiveCheck.Disk.Basic
import LiveCheck.Shell.Script
import LiveCheck.Tool

namespace LiveCheck.Shell

/-! ### How commands run

Of all commands only the plainest are known: to print words, to list a directory or a file, to
succeed, to fail and to end. A shell runs a script of them, in a directory and with parameters. A
file of the user is never a command, because nobody has made it executable. -/

/-- A shell at work. -/
structure State where
  disk : Disk
  directory : String
  /-- The name of the shell, and its parameters in order. -/
  name : String
  arguments : List String
  bindings : Table (List Char) String := []
  stdout : List UInt8 := []
  stderr : List UInt8 := []
  /-- The status of the last command. -/
  status : Int := 0
  ended : Bool := false

namespace State

/-- The value of a parameter. -/
def parameter (s : State) (name : List Char) : String :=
  match name with
  | ['@'] | ['*'] => " ".intercalate s.arguments
  | ['#'] => Text.natString s.arguments.length
  | ['?'] => Text.intString s.status
  | ['0'] => s.name
  | _ =>
    if name.all Char.isDigit then s.arguments.getD (Text.numeralValue name - 1) ""
    else (s.bindings.get? name).getD ""

/-- Print to one of the outputs. -/
def print (s : State) (toErrors : Bool) (bytes : List UInt8) : State :=
  if toErrors then { s with stderr := s.stderr ++ bytes }
  else { s with stdout := s.stdout ++ bytes }

/-- Print a line. -/
def printLine (s : State) (toErrors : Bool) (line : String) : State :=
  s.print toErrors (Encoding.Utf8.encode (line.toList ++ ['\n']))

/-- The state after a command that failed with a complaint. -/
def complain (s : State) (status : Int) (complaint : String) : State :=
  { s.printLine true complaint with status }

end State

/-- Values that grow while a word is expanded: those that are complete, and the last one. -/
structure Values where
  complete : List (List Char) := []
  last : Option (List Char) := none

namespace Values

/-- More text of the last value. -/
def append (v : Values) (text : List Char) : Values :=
  { v with last := some (v.last.getD [] ++ text) }

/-- The last value is complete. -/
def close (v : Values) : Values :=
  { complete := v.complete ++ v.last.toList, last := none }

/-- More text, in which blanks end a value. -/
def appendFields (v : Values) (text : List Char) : Values :=
  text.foldl (fun v c => if c = ' ' ∨ c = '\t' ∨ c = '\n' then v.close else v.append [c]) v

/-- Several values in a row, of which the first continues the last one. -/
def appendEach (v : Values) : List (List Char) → Values
  | [] => v
  | [text] => v.append text
  | text :: rest => appendEach (v.append text).close rest

/-- More text from a part of a word. -/
def appendPiece (s : State) (v : Values) : Piece → Values
  | .literal text _ => v.append text
  | .parameter ['@'] true => v.appendEach (s.arguments.map String.toList)
  | .parameter name true => v.append (s.parameter name).toList
  | .parameter name false => v.appendFields (s.parameter name).toList

end Values

/-- The values that a word stands for. -/
def expand (s : State) (w : Word) : List String :=
  let w := if w.contains (.parameter ['@'] true) then w.filter (· ≠ .literal [] true) else w
  ((w.foldl (Values.appendPiece s) {}).close.complete).map String.ofList

/-- The names that a listing of a directory shows, in order. -/
def shownNames (disk : Disk) (directory : String) : List String :=
  match disk.list "/" directory with
  | .ok names =>
    ((names.filter fun name => name.head? ≠ some '.').map String.ofList).mergeSort
  | .error _ => []

/-- List what stands at a path. -/
def listPath (toErrors : Bool) (s : State) (path : String) : State :=
  let full := Path.join s.directory path
  if s.disk.isDirectory "/" full then
    (shownNames s.disk full).foldl (fun s name => s.printLine toErrors name) s
  else if s.disk.has "/" full then s.printLine toErrors path
  else s.complain 2 ("ls: cannot access '" ++ path ++ "': No such file or directory")

/-- Print a file. -/
def printFile (toErrors : Bool) (s : State) (path : String) : State :=
  match s.disk.read "/" (Path.join s.directory path) with
  | .ok bytes => s.print toErrors bytes
  | .error fault =>
    let reason := if fault.isIn .missing then "No such file or directory" else "Is a directory"
    s.complain 1 ("cat: " ++ path ++ ": " ++ reason)

/-- Run a command with its arguments. -/
def runCommand (toErrors : Bool) (s : State) (command : String) (arguments : List String) :
    State :=
  let ok : State := { s with status := 0 }
  match command with
  | "echo" => ok.printLine toErrors (" ".intercalate arguments)
  | "true" | ":" | "sleep" => ok
  | "false" => { s with status := 1 }
  | "pwd" => ok.printLine toErrors s.directory
  | "ls" =>
    (if arguments = [] then ["."] else arguments).foldl (listPath toErrors) ok
  | "cat" => arguments.foldl (printFile toErrors) ok
  | "exit" =>
    let status := match arguments with
      | [] => s.status
      | word :: _ => Int.ofNat (Text.numeralValue word.toList % 256)
    { s with status, ended := true }
  | "kill" =>
    match arguments with
    | option :: _ =>
      { s with status := -Int.ofNat (Text.numeralValue (option.toList.drop 1)), ended := true }
    | [] => s.complain 2 "kill: usage"
  | _ => s.complain 127 (s.name ++ ": 1: " ++ command ++ ": not found")

/-- Does a command with this link run? -/
def follows (s : State) : Link → Bool
  | .always => !s.ended
  | .afterSuccess => !s.ended && s.status = 0
  | .afterFailure => !s.ended && s.status ≠ 0

mutual

/-- Run one command. -/
def Command.run (s : State) : Command → State
  | .simple words toErrors =>
    match words.flatMap (expand s) with
    | [] => s
    | command :: arguments => runCommand toErrors s command arguments
  | .forEach name words body =>
    (words.flatMap (expand s)).foldl
      (fun s value =>
        if s.ended then s else body.run { s with bindings := s.bindings.put name value }) s

/-- Run commands one after the other. -/
def Script.run (s : State) : Script → State
  | .done => s
  | .next link command rest =>
    let s := if follows s link then command.run s else s
    rest.run s

end

/-- The shell with the arguments of its call: a script, its name and its parameters. -/
def runShell (s : State) : List String → State
  | "-c" :: script :: arguments =>
    let s := { s with name := arguments.headD s.name, arguments := arguments.drop 1 }
    match parse? script with
    | some script => script.run s
    | none => s.complain 2 (s.name ++ ": 1: Syntax error: end of file unexpected")
  | _ => s.complain 2 (s.name ++ ": 0: Illegal option --")

/-! ### Starting a command -/

/-- The directories in which commands without a directory are looked up. -/
def searchPath : List String := ["/usr/bin", "/bin"]

/-- The commands that are there. -/
def known : List String := ["sh", "echo", "true", "false", "ls", "cat", "pwd", "sleep"]

/-- The name of the command that is meant, if it is there. -/
def named? (command : String) : Option String :=
  let name := Path.baseName command
  if name ∈ known ∧ (name = command ∨ Path.directory command ∈ searchPath) then some name else none

/-- The number of the system error for a command that is not there. -/
def startError (disk : Disk) (directory command : String) : Nat :=
  if Path.baseName command = command then SystemError.noEntry
  else match disk.locate directory command true with
    | .ok (.found _) => SystemError.accessDenied
    | .ok (.absent _ _) => SystemError.noEntry
    | .error number => number

/-- Is there a null character in one of the words? -/
def hasNull (words : List String) : Bool := words.any fun word => '\x00' ∈ word.toList

/-- Run a command in a directory, up to its end. -/
def start (disk : Disk) (command : List String) (directory : String) : Except Fault Completion :=
  let program := command.headD ""
  if hasNull (directory :: command) then .error (.badValue "embedded null byte")
  else match disk.locate "/" directory true with
    | .error number => .error (SystemError.fault number directory)
    | .ok (.absent _ _) => .error (SystemError.fault SystemError.noEntry directory)
    | .ok (.found place) =>
      if disk.entry? place ≠ some .directory then
        .error (SystemError.fault SystemError.notDirectory directory)
      else match named? program with
        | none => .error (SystemError.fault (startError disk directory program) program)
        | some name =>
          let s : State := { disk, directory, name := program, arguments := [] }
          let s := if name = "sh" then runShell s (command.drop 1)
            else runCommand false s name (command.drop 1)
          .ok (.ofBytes s.status s.stdout s.stderr)

end LiveCheck.Shell
