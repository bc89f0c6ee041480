import LiveCheck.Diagnostic.Line
import LiveCheck.Encoding.Utf8
import LiveCheck.Program
import LiveCheck.Settings.Basic
import LiveCheck.Text.Lines
import LiveCheck.Text.ShellWords

namespace LiveCheck

/-! ### The tool: how the checker is run

The tool is run once over all paths. While it runs, the scan is asked again and again whether it
is cancelled; if so, the process is killed. The tool has done its work when it ends with status 0
or 1; status 2 stands for errors that block, and counts as done when something was reported or
nothing was complained about. -/

/-- The end of a tool that printed these bytes: undecodable stretches are replaced, and every line
ends with a line feed. -/
def Completion.ofBytes (status : Int) (stdout stderr : List UInt8) : Completion :=
  let text (bytes : List UInt8) : String :=
    String.ofList (Text.unifyLineEnds (Encoding.Utf8.decodeReplacing bytes))
  { status, stdout := text stdout, stderr := text stderr }

namespace Tool

/-- The names of configuration files, the first that is there wins. -/
def configNames : List String := ["mypy.ini", ".mypy.ini", "pyproject.toml", "setup.cfg"]

/-- The options without which the report cannot be read. -/
def requiredOptions : List String :=
  ["--show-column-numbers", "--show-absolute-path", "--no-color-output", "--no-error-summary",
   "--hide-error-context"]

/-- The first of the paths that is a file. -/
def firstFile : List String → Program (Option String)
  | [] => pure none
  | path :: rest => do
    if ← Program.request (.isFile path) then pure (some path) else firstFile rest

/-- The configuration file of a project: the configured one if it is there, and none if it is not;
when none is configured, the first of the usual names. -/
def locateConfig (root : String) (configured : Option String) : Program (Option String) :=
  match configured with
  | none | some "" => firstFile (configNames.map (Path.join root))
  | some name => do
    let path := Path.join root name
    if ← Program.request (.isFile path) then pure (some path)
    else
      logLine .warning .tool ("Configured mypy config file not found: " ++ path)
      pure none

/-- The words of a command line, or the fault of one that cannot be cut. -/
def words (line : String) : Action (List String) :=
  Action.ofExcept ((Text.shellWords line).mapError fun e => .badValue e.message)

/-- The command for paths: the configured one, the required options, the configuration file, the
configured options, and the paths in order. -/
def command (settings : Settings) (root : String) (paths : List String) :
    Action (List String) := do
  let start ← words settings.command
  let config ← Action.ofTotal (locateConfig root settings.configFile)
  let configOptions := match config with
    | some path => if path = "" then [] else ["--config-file", path]
    | none => []
  let options ← if settings.arguments = "" then pure [] else words settings.arguments
  pure (start ++ requiredOptions ++ configOptions ++ options ++ paths.mergeSort)

/-- The most characters of a complaint that are shown. -/
def previewLength : Nat := 2000

/-- The start of a complaint. -/
def preview (s : String) : String := String.ofList ((Text.trim s.toList).take previewLength)

/-- The lines that the tool printed. -/
def lines (c : Completion) : List String := (Text.outputLines c.stdout.toList).map String.ofList

/-- Has the tool done its work? -/
def isDone (c : Completion) : Bool :=
  c.status = 0 || c.status = 1 ||
    (c.status = 2 && ((lines c).any ReportLine.isReport || Text.isBlankString c.stderr))

/-- The lines of a tool that has done its work, and else a failure. -/
def result (c : Completion) : Except Fault (List String) :=
  if isDone c then .ok (lines c)
  else
    let complaint := preview (if c.stderr = "" then c.stdout else c.stderr)
    .error (.failure (.tool (some c.status) (some c.stderr))
      ("mypy exited with status " ++ Text.intString c.status ++ ": " ++ complaint))

/-- Kill the process because the scan is cancelled. -/
def killCancelled : Action Completion := do
  let stuck : Option Nat ← Action.ofTotal (.request .kill)
  match stuck with
  | some number =>
    Action.ofTotal (logLine .warning .tool
      ("mypy (pid " ++ Text.natString number ++ ") did not exit after kill"))
  | none => pure ()
  throw (.cancelled "mypy run cancelled")

/-- Fail if the scan is cancelled, and kill the process then. -/
def unlessCancelled (cancellable : Bool) (next : Action Completion) : Action Completion := do
  if cancellable then
    let stop : Bool ← Action.ofTotal (.request .isCancelled)
    if stop then killCancelled else next
  else next

/-- Wait for a process that ends after `waits` waits. -/
def await (cancellable : Bool) : (waits : Nat) → Action Completion
  | 0 => unlessCancelled cancellable (Action.ofTotal (.request .collect))
  | waits + 1 => unlessCancelled cancellable do
    Action.ofTotal (.request .wait)
    await cancellable waits

/-- Run the tool over paths: the lines that it prints. -/
def run (settings : Settings) (root : String) (paths : List String) (cancellable : Bool) :
    Action (List String) := do
  let words ← command settings root paths
  checkCancelled cancellable
  match ← Action.ofTotal (.request (.start words root)) with
  | .error fault =>
    if fault.isSystem then
      throw (.failed (.tool none none)
        ("Unable to start mypy (" ++ words.headD "" ++ "): " ++ fault.message) (some fault))
    else throw fault
  | .ok waits =>
    let completion ← await cancellable waits
    Action.ofExcept (result completion)

end Tool

end LiveCheck
