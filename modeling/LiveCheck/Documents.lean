import LiveCheck.Disk.Basic
import LiveCheck.Encoding.Builtin
import LiveCheck.Handle

namespace LiveCheck

/-! ### Documents: the disk with unsaved buffers on top

An editor shows a file as its buffer has it, if it has one, and else as it is on the disk. Buffers
and declared encodings are kept by the path of the file. To save is to write the buffer and to
drop it; the file is emptied before it is written, so a text that cannot be encoded leaves an
empty file behind, and the buffer. -/

/-- What the editor knows of files, and the encodings that it can use. -/
structure Documents where
  defaultEncoding : String
  buffers : Table String String
  encodings : Table String String
  codecs : Encoding.Codecs := .builtin

namespace Documents

/-- The encoding of files for which nobody says anything else. -/
def usualEncoding : String := "utf-8"

/-- The documents of an editor in which nothing is open. -/
def fresh (defaultEncoding : String) (codecs : Encoding.Codecs := .builtin) : Documents :=
  { defaultEncoding, buffers := [], encodings := [], codecs }

/-- The encoding of a file: the declared one, or the default one. -/
def encodingOf (docs : Documents) (h : Handle) : String :=
  (docs.encodings.get? h.path).getD docs.defaultEncoding

/-- The text of a file on the disk; `none` if there is no file. -/
def diskText (docs : Documents) (disk : Disk) (cwd : String) (h : Handle) :
    Except Fault (Option String) :=
  if disk.has cwd h.path then do
    Encoding.checkName (docs.encodingOf h)
    let bytes ← disk.read cwd h.path
    let codec ← docs.codecs.find (docs.encodingOf h)
    let text ← codec.decode bytes
    .ok (some (String.ofList text))
  else .ok none

/-- The text of a file as the editor shows it. -/
def currentText (docs : Documents) (disk : Disk) (cwd : String) (h : Handle) :
    Except Fault String :=
  match docs.buffers.get? h.path with
  | some text => .ok text
  | none => do
    match ← docs.diskText disk cwd h with
    | some text => .ok text
    | none => .error (.noSuchDocument h.path)

/-- Has the file a buffer that differs from the disk? -/
def isModified (docs : Documents) (disk : Disk) (cwd : String) (h : Handle) :
    Except Fault Bool :=
  match docs.buffers.get? h.path with
  | none => .ok false
  | some text => do .ok (decide (some text ≠ (← docs.diskText disk cwd h)))

/-- The handle of a file that has a buffer or is on the disk. -/
def resolve (docs : Documents) (disk : Disk) (cwd path : String) : Option Handle :=
  let h := Handle.forPath cwd path
  if docs.buffers.has h.path || disk.isFile cwd h.path then some h else none

/-- The paths of what a directory holds on the disk, and of the buffers in it. -/
def children (docs : Documents) (disk : Disk) (cwd path : String) :
    Except Fault (List String) := do
  let directory := Path.normalize cwd path
  let names ← disk.list cwd directory
  let onDisk := names.map fun name => Path.join directory (String.ofList name)
  let unsaved := docs.buffers.keys.filter fun p =>
    Path.directory p = directory ∧ p ∉ onDisk
  .ok (onDisk ++ unsaved)

/-- Give a file a text that is not saved. An empty name of an encoding declares nothing. -/
def edit (docs : Documents) (cwd path text : String) (encoding : Option String) :
    Handle × Documents :=
  let h := Handle.forPath cwd path
  (h, { docs with
        buffers := docs.buffers.put h.path text
        encodings := match encoding with
          | none | some "" => docs.encodings
          | some name => docs.encodings.put h.path name })

/-- Drop the unsaved text of a file. -/
def discard (docs : Documents) (h : Handle) : Documents :=
  { docs with buffers := docs.buffers.remove h.path }

/-- Write the unsaved text of a file to the disk, and drop it. The disk may have changed even when
this fails. -/
def save (docs : Documents) (disk : Disk) (cwd : String) (h : Handle) :
    Except Fault Unit × Documents × Disk :=
  match docs.buffers.get? h.path with
  | none => (.ok (), docs, disk)
  | some text =>
    match Encoding.checkName (docs.encodingOf h) with
    | .error fault => (.error fault, docs, disk)
    | .ok () =>
      match disk.openEmpty cwd h.path with
      | .error fault => (.error fault, docs, disk)
      | .ok (place, opened) =>
        match (docs.codecs.find (docs.encodingOf h)).bind fun codec => codec.encode text.toList with
        | .error fault => (.error fault, docs, opened)
        | .ok bytes => (.ok (), docs.discard h, opened.fill place bytes)

end Documents

end LiveCheck
