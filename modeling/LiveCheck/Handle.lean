import LiveCheck.Path
import LiveCheck.Text.Lowercase
import LiveCheck.Text.Quoted

namespace LiveCheck

/-! ### File handles

A handle stands for an editable file. Two handles are the same when their paths are the same text
and they come from the same kind of provider: an editor may hand in handles of its own, and such a
handle is never the workspace's handle of that path. -/

/-- Where a handle comes from. -/
inductive Provider where
  /-- A handle of the workspace itself. -/
  | workspace
  /-- A handle made by somebody else, with the same operations. -/
  | foreign
deriving DecidableEq, Repr

/-- A reference to an editable file. -/
structure Handle where
  path : String
  provider : Provider := .workspace
deriving DecidableEq, Repr

namespace Handle

/-- The workspace's handle of a path: the path is normalized first. -/
def forPath (cwd path : String) : Handle := { path := Path.normalize cwd path }

/-- The last component of the path. -/
def name (h : Handle) : String := Path.baseName h.path

/-- The extension of the path, with its dot, in lower case. -/
def extension (h : Handle) : String := Text.lowerString (Path.splitExtension h.path).2

/-- The directory part of the path. -/
def directory (h : Handle) : String := Path.directory h.path

/-- The handle as it is shown to a programmer. -/
def display (h : Handle) : String := "FileHandle(path=" ++ Text.quoteString h.path ++ ")"

end Handle

end LiveCheck
