import LiveCheck.CommandLine.Arguments
import LiveCheck.Scan

namespace LiveCheck.CommandLine

/-! ### One scan from the command line

The status of a run is 0 when nothing grave was reported, 1 when at least one diagnostic is an
error, and 2 when the scan failed or could not begin. Diagnostics are printed in the order of a
listing; what the user is shown of a failure goes to the error output. -/

/-- How a run ended. -/
structure Finish where
  status : Nat
  /-- Did the arguments alone end the run? -/
  early : Bool := false
  stdout : String := ""
  stderr : String := ""
deriving DecidableEq, Repr

/-- What a scan showed, and its outcome. -/
structure Record where
  shown : List String := []
  outcome : Option Outcome := none

/-- The program that keeps to itself what it would show, and that has no listeners. -/
def recording {α : Type} : Program α → Program (α × Record)
  | .done a => .done (a, {})
  | .ask (.present _ message _) next => do
    let (a, record) ← recording (next (.ok ()))
    pure (a, { record with shown := message :: record.shown })
  | .ask (.conclude outcome) next => .ask (.conclude outcome) fun reply => do
    let (a, record) ← recording (next reply)
    pure (a, { record with outcome := some (record.outcome.getD outcome) })
  | .ask .listeners next => recording (next [])
  | .ask r next => .ask r fun reply => recording (next reply)

/-- Lines, each with its end. -/
def printed (lines : List String) : String := String.join (lines.map (· ++ "\n"))

/-- The values that arguments give to settings. -/
def Arguments.override (arguments : Arguments) : Setting → Option Value
  | .tabWidth => arguments.tabWidth.map .int
  | .configFile => arguments.configFile.map .text
  | .allFiles => if arguments.allFiles then some (.bool true) else none
  | _ => none

/-- The scan that arguments ask for. -/
def Arguments.scan (arguments : Arguments) (settings : Settings) (cwd base : String) : Scan :=
  let project := Project.make cwd base [] []
  let roots := if arguments.roots = [] then [project.base] else arguments.roots
  .of project settings cwd .tool none (.roots (roots.map .path))

/-- How a run ends with the report of its scan and what was recorded. -/
def finish (report : Report) (record : Record) : Finish :=
  match record.outcome with
  | some (.success _) | some (.cancelled _) =>
    { status := if report.count .error = 0 then 0 else 1
      stdout := printed ((Diagnostic.sort report.diagnostics).map Diagnostic.format) }
  | _ => { status := 2, stderr := printed (record.shown.map ("Error: " ++ ·)) }

/-- Scan with these settings. -/
def scanWith (arguments : Arguments) (settings : Settings) (cwd : String) : Action Finish := do
  let base := arguments.project.getD cwd
  if ← Action.ofProgram (.request (.isDirectory base)) then
    let (result, record) ← Action.ofTotal (recording (arguments.scan settings cwd base).run)
    let report ← Action.ofExcept result
    pure (finish report record)
  else
    pure { status := 2, stderr := "Error: Project directory not found: " ++ base ++ "\n" }

/-- Run the program with its arguments. -/
def run (environment : String → Option String) (cwd : String) (arguments : List String) :
    Action Finish :=
  match parse arguments with
  | .error misuse => pure { status := 2, early := true, stderr := misuseText misuse }
  | .ok .help => pure { status := 0, early := true, stdout := helpText }
  | .ok (.run arguments) =>
    match Settings.load environment arguments.override with
    | .error (.refused refusals) =>
      pure { status := 2
             stderr := "Error: invalid settings: " ++ Settings.report refusals ++ "\n" }
    | .error (.noParts kind) => throw (Settings.noPartsFault kind)
    | .ok settings => scanWith arguments settings cwd

end LiveCheck.CommandLine
