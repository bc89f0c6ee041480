import LiveCheck.Documents
import LiveCheck.Program

namespace LiveCheck

/-! ### The workspace: how requests about files are answered

A workspace is a disk, the documents of an editor, the current directory and the directory for
temporary files. It answers the requests of a program that are about files. Temporary files are
numbered: each try to make one takes the next number, and a name that is taken is passed over. -/

/-- The state that requests about files are answered from. -/
structure Workspace where
  disk : Disk
  documents : Documents
  cwd : String
  temporaryDirectory : String
  nextTemporary : Nat := 0

namespace Workspace

/-- The most names that are tried for a temporary file. -/
def maxTries : Nat := 10000

/-- A number with at least eight digits. -/
def numberText (n : Nat) : String :=
  let digits := Text.natChars n
  String.ofList (List.replicate (8 - digits.length) '0' ++ digits)

/-- Make a temporary file: try names until one is free. -/
def createTemporary (w : Workspace) (directory stem extension : String) :
    (tries : Nat) → Except Fault String × Workspace
  | 0 => (.error (SystemError.faultWith SystemError.alreadyExists
      "No usable temporary file name found"), w)
  | tries + 1 =>
    let path := Path.join directory (stem ++ numberText w.nextTemporary ++ extension)
    let w := { w with nextTemporary := w.nextTemporary + 1 }
    match w.disk.locate w.cwd path false with
    | .ok (.found _) => createTemporary w directory stem extension tries
    | _ =>
      match w.disk.create w.cwd path with
      | .ok (_, disk) => (.ok path, { w with disk })
      | .error fault => (.error fault, w)

/-- Write a text to a temporary file that is open. -/
def writeTemporary (w : Workspace) (path text encoding : String) : Except Fault Unit × Workspace :=
  match (w.documents.codecs.find encoding).bind fun codec => codec.encode text.toList with
  | .error fault => (.error fault, w)
  | .ok bytes =>
    match w.disk.locate w.cwd path false with
    | .ok (.found place) => (.ok (), { w with disk := w.disk.fill place bytes })
    | _ => (.ok (), w)

/-- Remove a file. -/
def remove (w : Workspace) (path : String) : Except Fault Unit × Workspace :=
  match w.disk.remove w.cwd path with
  | .ok disk => (.ok (), { w with disk })
  | .error fault => (.error fault, w)

/-- More directories than a walk can go through one after the other, with room for directories
that are made meanwhile. -/
def directoryBound (w : Workspace) : Nat := w.disk.entries.length + Disk.maxPath

/-- The answer to a request, if it is about files. Entries of directories are given in the order
of their paths. -/
def answer? (w : Workspace) : (r : Request) → Option (r.Reply × Workspace)
  | .children path =>
    some ((w.documents.children w.disk w.cwd path).map fun paths => paths.mergeSort, w)
  | .isDirectory path => some (.ok (w.disk.isDirectory w.cwd path), w)
  | .resolve path => some (.ok (w.documents.resolve w.disk w.cwd path), w)
  | .currentText h => some (w.documents.currentText w.disk w.cwd h, w)
  | .diskText h => some (w.documents.diskText w.disk w.cwd h, w)
  | .encoding h => some (.ok (w.documents.encodingOf h), w)
  | .realPath path =>
    some (if '\x00' ∈ path.toList then .error (.badValue "embedded null byte")
      else .ok (w.disk.realPath w.cwd path), w)
  | .directoryBound => some (w.directoryBound, w)
  | .isFile path => some (w.disk.isFile w.cwd path, w)
  | .createTemporary stem extension directory =>
    let directory := Path.normalize w.cwd (directory.getD w.temporaryDirectory)
    some (w.createTemporary directory stem extension maxTries)
  | .writeTemporary path text encoding => some (w.writeTemporary path text encoding)
  | .remove path => some (w.remove path)
  | _ => none

/-- The answer to a request where there are only files. -/
def answer (r : Request) : StateM Workspace r.Reply := do
  match (← get).answer? r with
  | none => pure r.nothing
  | some (reply, w) =>
    set w
    pure reply

end Workspace

end LiveCheck
