import LiveCheck.Disk.SystemError
import LiveCheck.Path
import LiveCheck.Table

namespace LiveCheck

/-! ### The disk

The disk is a tree of directories, files and symbolic links. It is kept as a table of places: a
place is the list of names that leads to it from the root, and the root itself is always there.
A path is walked name by name. A link on the way is replaced by its target, at most forty times;
a link at the end is followed or not, as the caller wants. -/

/-- A name in a directory. -/
abbrev Name := List Char

/-- The names that lead from the root to a place. -/
abbrev Place := List Name

/-- What stands at a place. -/
inductive Entry where
  | directory
  | file (content : List UInt8)
  | link (target : String)
deriving DecidableEq, Repr

/-- The tree, as a table of all its places but the root. -/
structure Disk where
  entries : Table Place Entry
deriving DecidableEq, Repr

namespace Disk

/-- The disk with nothing on it but the root. -/
def empty : Disk := { entries := [] }

/-- What stands at a place. -/
def entry? (d : Disk) (place : Place) : Option Entry :=
  if place = [] then some .directory else d.entries.get? place

/-- The path of a place. -/
def pathOf (place : Place) : String := String.ofList ('/' :: Path.joinPieces place)

/-- The longest name, in bytes. -/
def maxName : Nat := 255

/-- The longest path, in bytes. -/
def maxPath : Nat := 4095

/-- The most links that are followed on one way. -/
def maxLinks : Nat := 40

/-- The number of bytes of a text. -/
def byteLength (s : List Char) : Nat := s.foldl (fun n c => n + c.utf8Size) 0

/-! ### Walking a path -/

/-- Where a path leads. -/
inductive Target where
  /-- Something stands there. -/
  | found (place : Place)
  /-- Nothing stands there, but the directory that would hold it does. -/
  | absent (directory : Place) (name : Name)
deriving DecidableEq, Repr

/-- How a walk goes until it ends or meets a link. -/
inductive Walk where
  | ended (target : Target)
  | met (directory : Place) (target : String) (rest : List Name)
  | failed (number : Nat)
deriving DecidableEq, Repr

/-- Walk the pieces of a path from a place. Every piece, also an empty one, needs a directory to
start from. A link that is met with pieces left is always followed. -/
def walk (d : Disk) (followLast : Bool) : Place → List Name → Walk
  | place, [] => .ended (.found place)
  | place, piece :: rest =>
    if d.entry? place ≠ some .directory then .failed SystemError.notDirectory
    else if piece = [] ∨ piece = ['.'] then walk d followLast place rest
    else if piece = ['.', '.'] then walk d followLast place.dropLast rest
    else if byteLength piece > maxName then .failed SystemError.nameTooLong
    else
      let next := place ++ [piece]
      match d.entry? next with
      | none =>
        if rest = [] then .ended (.absent place piece) else .failed SystemError.noEntry
      | some (.link target) =>
        if rest = [] ∧ !followLast then .ended (.found next) else .met place target rest
      | some _ => walk d followLast next rest

/-- Walk the pieces of a path from a place, and follow at most `links` links. -/
def follow (d : Disk) (followLast : Bool) : (links : Nat) → Place → List Name → Except Nat Target
  | links, place, pieces =>
    match walk d followLast place pieces with
    | .ended target => .ok target
    | .failed number => .error number
    | .met directory target rest =>
      match links with
      | 0 => .error SystemError.tooManyLinks
      | links + 1 =>
        if target = "" then .error SystemError.noEntry
        else
          let start := if Path.isAbsolute target then [] else directory
          follow d followLast links start (Path.pieces target.toList ++ rest)

/-- The place of the current directory. -/
def startOf (cwd path : String) : Place :=
  if Path.isAbsolute path then [] else Path.components cwd.toList

/-- Where a path leads, seen from the current directory. -/
def locate (d : Disk) (cwd path : String) (followLast : Bool) : Except Nat Target :=
  if path = "" then .error SystemError.noEntry
  else if byteLength path.toList > maxPath then .error SystemError.nameTooLong
  else d.follow followLast maxLinks (startOf cwd path) (Path.pieces path.toList)

/-- What stands at a path, with all links followed. -/
def lookUp? (d : Disk) (cwd path : String) : Option Entry :=
  if '\x00' ∈ path.toList then none
  else match d.locate cwd path true with
    | .ok (.found place) => d.entry? place
    | _ => none

/-! ### Questions that never fail -/

/-- Does the path lead to something? -/
def has (d : Disk) (cwd path : String) : Bool := (d.lookUp? cwd path).isSome

/-- Does the path lead to a directory? -/
def isDirectory (d : Disk) (cwd path : String) : Bool := d.lookUp? cwd path = some .directory

/-- Does the path lead to a file? -/
def isFile (d : Disk) (cwd path : String) : Bool :=
  match d.lookUp? cwd path with
  | some (.file _) => true
  | _ => false

/-- The path without links that leads to the same place; a path that leads nowhere is only
normalized. -/
def realPath (d : Disk) (cwd path : String) : String :=
  match d.locate cwd path true with
  | .ok (.found place) => pathOf place
  | _ => Path.normalize cwd path

/-! ### Reading -/

/-- Where a path leads, or the fault of the call. A path with a null character is refused before
any call. -/
def locateOrFault (d : Disk) (cwd path : String) (followLast : Bool) : Except Fault Target :=
  if '\x00' ∈ path.toList then .error (.badValue "embedded null byte")
  else (d.locate cwd path followLast).mapError fun number => SystemError.fault number path

/-- The bytes of a file. -/
def read (d : Disk) (cwd path : String) : Except Fault (List UInt8) := do
  match ← d.locateOrFault cwd path true with
  | .absent _ _ => .error (SystemError.fault SystemError.noEntry path)
  | .found place =>
    match d.entry? place with
    | some (.file content) => .ok content
    | _ => .error (SystemError.fault SystemError.isDirectory path)

/-- The names in the directory at a place. -/
def namesIn (d : Disk) (place : Place) : List Name :=
  d.entries.keys.filterMap fun p =>
    if p.dropLast = place then p.getLast? else none

/-- The names in a directory. -/
def list (d : Disk) (cwd path : String) : Except Fault (List Name) := do
  match ← d.locateOrFault cwd path true with
  | .absent _ _ => .error (SystemError.fault SystemError.noEntry path)
  | .found place =>
    match d.entry? place with
    | some .directory => .ok (d.namesIn place)
    | _ => .error (SystemError.fault SystemError.notDirectory path)

/-! ### Writing -/

/-- The disk with this at a place. -/
def putEntry (d : Disk) (place : Place) (entry : Entry) : Disk :=
  { entries := d.entries.put place entry }

/-- The disk without a place and everything beneath it. -/
def removeTree (d : Disk) (place : Place) : Disk :=
  { entries := d.entries.filter fun entry => !place.isPrefixOf entry.1 }

/-- Open a file for writing: it is empty afterwards, and it is made if it was not there. The place
of the file. -/
def openEmpty (d : Disk) (cwd path : String) : Except Fault (Place × Disk) := do
  match ← d.locateOrFault cwd path true with
  | .absent directory name =>
    let place := directory ++ [name]
    .ok (place, d.putEntry place (.file []))
  | .found place =>
    match d.entry? place with
    | some (.file _) => .ok (place, d.putEntry place (.file []))
    | _ => .error (SystemError.fault SystemError.isDirectory path)

/-- Write the bytes of a file that is open at a place; nothing happens if the file is gone. -/
def fill (d : Disk) (place : Place) (content : List UInt8) : Disk :=
  match d.entry? place with
  | some (.file _) => d.putEntry place (.file content)
  | _ => d

/-- Make an empty file where nothing stands, not even a link. -/
def create (d : Disk) (cwd path : String) : Except Fault (Place × Disk) := do
  match ← d.locateOrFault cwd path false with
  | .absent directory name =>
    let place := directory ++ [name]
    .ok (place, d.putEntry place (.file []))
  | .found _ => .error (SystemError.fault SystemError.alreadyExists path)

/-- Remove a file or a link. -/
def remove (d : Disk) (cwd path : String) : Except Fault Disk := do
  match ← d.locateOrFault cwd path false with
  | .absent _ _ => .error (SystemError.fault SystemError.noEntry path)
  | .found place =>
    match d.entry? place with
    | some .directory | none => .error (SystemError.fault SystemError.isDirectory path)
    | some _ => .ok { entries := d.entries.remove place }

/-- Make a directory where nothing stands. -/
def makeDirectory (d : Disk) (cwd path : String) : Disk :=
  match d.locate cwd path true with
  | .ok (.absent directory name) => d.putEntry (directory ++ [name]) .directory
  | _ => d

end Disk

end LiveCheck
