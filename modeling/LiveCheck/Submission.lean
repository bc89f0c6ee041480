import LiveCheck.Scan

namespace LiveCheck

/-! ### What a service is asked to scan

A service is handed files or roots, or it is asked for what its project holds. In the second case
the directories are walked at once, and the files that are found are scanned later like files that
were handed in. Some submissions have a filter of their own, which comes before a given one. -/

/-- What a service is asked to scan. -/
inductive Submission where
  | files (handles : List Handle)
  | roots (roots : List Root)
  /-- The files in front of the user. -/
  | current (handles : List Handle)
  /-- Everything under the source roots of the project. -/
  | sourceRoots
  /-- Everything in the project, of every kind. -/
  | project
deriving DecidableEq, Repr

namespace Submission

/-- What a submission scans, and the filter of those that have one of their own. -/
def targets (project : Project) (settings : Settings) (cwd : String) :
    Submission → Action (Targets × Option Filter)
  | .files handles => pure (.files handles, none)
  | .roots starts => pure (.roots starts, none)
  | .current handles => pure (.files handles, some (own settings.allFiles))
  | .sourceRoots => do
    let files ← Discovery.flatten cwd false (project.sourceRoots.map .path)
    pure (.files files, some (own settings.allFiles))
  | .project => do
    let files ← Discovery.flatten cwd false [.path project.base]
    pure (.files files, some (own true))
where
  own (all : Bool) : Filter := .make project settings.extensions all

/-- The scan that is submitted. -/
def scan (project : Project) (settings : Settings) (cwd : String) (runner : Runner)
    (filter : Option Filter) (submission : Submission) : Action Scan := do
  let (targets, own) ← submission.targets project settings cwd
  pure (.of project settings cwd runner (own <|> filter) targets)

end Submission

end LiveCheck
