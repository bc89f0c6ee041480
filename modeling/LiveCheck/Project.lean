import LiveCheck.Handle

namespace LiveCheck

/-! ### Projects and eligible files

A project has a base directory, source roots (the base when none is named) and excluded roots. A
file is worth checking when its extension is a source extension and it stands in a source root, or
anywhere in the project when all files are asked for; an excluded root always wins. -/

/-- The layout of a project: every path in it is normal. -/
structure Project where
  base : String
  sourceRoots : List String
  excludedRoots : List String
deriving DecidableEq, Repr

namespace Project

/-- The project of these directories, seen from the current directory. -/
def make (cwd base : String) (sourceRoots excludedRoots : List String) : Project :=
  let base := Path.normalize cwd base
  { base
    sourceRoots := (if sourceRoots = [] then [base] else sourceRoots).map (Path.normalize cwd)
    excludedRoots := excludedRoots.map (Path.normalize cwd) }

/-- Is the path in an excluded root? -/
def isExcluded (p : Project) (cwd path : String) : Bool :=
  p.excludedRoots.any (Path.isUnder cwd path)

/-- Is the path in a source root? -/
def inSourceRoot (p : Project) (cwd path : String) : Bool :=
  p.sourceRoots.any (Path.isUnder cwd path)

/-- Is the path in the project? -/
def contains (p : Project) (cwd path : String) : Bool := Path.isUnder cwd path p.base

end Project

/-- The extensions of source files when nothing else is configured. -/
def defaultExtensions : List String := [".py", ".pyi"]

/-- The rule that picks files. -/
structure Filter where
  project : Project
  extensions : List String
  allFiles : Bool
deriving DecidableEq, Repr

namespace Filter

/-- The rule with these extensions, in lower case; the default ones if none is named. -/
def make (project : Project) (extensions : List String) (allFiles : Bool) : Filter :=
  { project
    extensions := (if extensions = [] then defaultExtensions else extensions).map Text.lowerString
    allFiles }

/-- Is the file worth checking? -/
def isEligible (f : Filter) (cwd : String) (h : Handle) : Bool :=
  f.extensions.contains h.extension &&
    !f.project.isExcluded cwd h.path &&
    if f.allFiles then f.project.contains cwd h.path else f.project.inSourceRoot cwd h.path

/-- The list without the later copies of its elements. -/
def firsts {α : Type} [DecidableEq α] : List α → List α
  | [] => []
  | a :: rest => a :: (firsts rest).filter (· ≠ a)

/-- The eligible files of a list, each once, in order of first occurrence. -/
def select (f : Filter) (cwd : String) (handles : List Handle) : List Handle :=
  (firsts handles).filter (f.isEligible cwd)

end Filter

end LiveCheck
