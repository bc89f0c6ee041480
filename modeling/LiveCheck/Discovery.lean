import LiveCheck.Program

namespace LiveCheck

/-! ### Discovery: the files under the roots of a scan

Every root is walked through the document model, so that files which exist only in the editor are
found too. Directories are walked and never returned. A directory that cannot be listed is passed
over. A directory that is reached through a link is walked under the path of the link; only a link
back to a directory on the way down is not followed, and no path is walked twice. -/

/-- Where a scan starts to look. -/
inductive Root where
  | path (text : String)
  | handle (h : Handle)
deriving DecidableEq, Repr

/-- The path that a walk starts with. -/
def Root.start (cwd : String) : Root → String
  | path text => Path.normalize cwd text
  | handle h => h.path

/-- What has been walked and found so far. -/
structure Discovered where
  visited : List String := []
  files : List Handle := []
deriving DecidableEq, Repr

namespace Discovered

/-- Add a file, unless it was found before. -/
def add (found : Discovered) (h : Handle) : Discovered :=
  if h ∈ found.files then found else { found with files := found.files ++ [h] }

/-- Add what a path resolves to. -/
def addResolved (found : Discovered) : Option Handle → Discovered
  | some h => found.add h
  | none => found

/-- The files, ordered by their paths. -/
def sorted (found : Discovered) : List Handle :=
  found.files.mergeSort fun h k => h.path ≤ k.path

end Discovered

namespace Discovery

/-- Look at the children of a directory one after the other: files are added, directories are
collected, the last one first. -/
def look (inner : List String) (found : Discovered) :
    List String → Action (List String × Discovered)
  | [] => pure (inner, found)
  | child :: rest => do
    if ← Action.ofProgram (.request (.isDirectory child)) then
      look (child :: inner) found rest
    else
      let resolved ← Action.ofProgram (.request (.resolve child))
      look inner (found.addResolved resolved) rest

/-- Walk a directory and the directories in it, the last one first. The real paths of the
directories on the way down are its `ancestors`; at most `depth` directories are walked one inside
the other. -/
def walk (cwd : String) (cancellable : Bool) :
    (depth : Nat) → (ancestors : List String) → Discovered → String → Action Discovered
  | 0, _, _, _ => throw .tooDeep
  | depth + 1, ancestors, found, directory => do
    checkCancelled cancellable
    let key := Path.normalize cwd directory
    let real ← Action.ofProgram (.request (.realPath directory))
    if key ∈ found.visited ∨ real ∈ ancestors then pure found
    else
      let found := { found with visited := key :: found.visited }
      match ← Action.ofTotal (.request (.children directory)) with
      | .error fault => if fault.isSystem then pure found else throw fault
      | .ok children =>
        let (inner, found) ← look [] found children
        inner.foldlM (walk cwd cancellable depth (real :: ancestors)) found

/-- Walk one root: a directory with everything in it, or a single file. -/
def walkRoot (cwd : String) (cancellable : Bool) (depth : Nat) (found : Discovered)
    (root : Root) : Action Discovered := do
  checkCancelled cancellable
  let start := root.start cwd
  if ← Action.ofProgram (.request (.isDirectory start)) then
    walk cwd cancellable depth [] found start
  else
    let resolved ← Action.ofProgram (.request (.resolve start))
    pure (found.addResolved resolved)

/-- The files under the roots, each once. -/
def discover (cwd : String) (cancellable : Bool) (roots : List Root) : Action Discovered := do
  let depth ← Action.ofTotal (.request .directoryBound)
  roots.foldlM (walkRoot cwd cancellable (depth + 1)) {}

/-- The files under the roots, each once, ordered by their paths. -/
def flatten (cwd : String) (cancellable : Bool) (roots : List Root) : Action (List Handle) :=
  return (← discover cwd cancellable roots).sorted

end Discovery

end LiveCheck
