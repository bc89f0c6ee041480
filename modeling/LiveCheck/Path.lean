namespace LiveCheck.Path

/-! ### Paths as text

A path is a text whose components are separated by slashes. Everything here is about the text
alone: no directory is consulted. A path is made absolute by joining it to the current directory,
and it is normal when it has no empty component, no `.` and no `..`; a `..` at the root vanishes.
Exactly two slashes at the start are kept, since that form is reserved to the platform; any other
number of them is one. -/

/-- The pieces of a text between its slashes: one more than there are slashes. -/
def pieces : List Char → List (List Char)
  | [] => [[]]
  | c :: rest =>
    match pieces rest with
    | [] => [[c]]
    | p :: ps => if c = '/' then [] :: p :: ps else (c :: p) :: ps

/-- Texts with a slash between each two of them. -/
def joinPieces : List (List Char) → List Char
  | [] => []
  | [p] => p
  | p :: ps => p ++ '/' :: joinPieces ps

/-- What one piece does to the components read so far, the last of them first: an empty piece and
`.` do nothing, `..` takes back the last component, and any other piece is a component. -/
def pushPiece (stack : List (List Char)) (piece : List Char) : List (List Char) :=
  if piece = [] ∨ piece = ['.'] then stack
  else if piece = ['.', '.'] then stack.tail
  else piece :: stack

/-- The components of an absolute path. -/
def components (s : List Char) : List (List Char) := ((pieces s).foldl pushPiece []).reverse

/-- Does the text start with a slash? -/
def isAbsoluteChars : List Char → Bool
  | '/' :: _ => true
  | _ => false

/-- The number of slashes that a normal path keeps at its start. -/
def leadingSlashes : List Char → Nat
  | '/' :: '/' :: '/' :: _ => 1
  | '/' :: '/' :: _ => 2
  | _ => 1

/-- The path with this many slashes at its start and these components. -/
def render (slashes : Nat) (cs : List (List Char)) : List Char :=
  List.replicate slashes '/' ++ joinPieces cs

/-- The second path, seen from the first. -/
def joinChars (base path : List Char) : List Char :=
  if isAbsoluteChars path then path
  else if base = [] ∨ base.getLast? = some '/' then base ++ path
  else base ++ '/' :: path

/-- The normal form of an absolute path. -/
def normalizeAbsolute (s : List Char) : List Char := render (leadingSlashes s) (components s)

/-- The normal absolute form of a path, seen from the current directory. -/
def normalizeChars (cwd path : List Char) : List Char := normalizeAbsolute (joinChars cwd path)

/-- The text after the last slash. -/
def baseNameChars (s : List Char) : List Char := (s.reverse.takeWhile (· ≠ '/')).reverse

/-- The text before the last slash, without the slashes at its end unless it has nothing else. -/
def directoryChars (s : List Char) : List Char :=
  let head := (s.reverse.dropWhile (· ≠ '/')).reverse
  if head.all (· = '/') then head else (head.reverse.dropWhile (· = '/')).reverse

/-- A text split before its last dot, if it has one. -/
def splitLastDot (s : List Char) : Option (List Char × List Char) :=
  let tail := (s.reverse.takeWhile (· ≠ '.')).reverse
  if tail.length = s.length then none
  else some (s.take (s.length - tail.length - 1), '.' :: tail)

/-- A path without its extension, and the extension: from the last dot of the base name on, unless
only dots stand before that dot. -/
def splitExtensionChars (s : List Char) : List Char × List Char :=
  let name := baseNameChars s
  match splitLastDot name with
  | some (stem, ext) =>
    if stem.all (· = '.') then (s, []) else (s.take (s.length - ext.length), ext)
  | none => (s, [])

/-- The common start of two lists. -/
def commonStart {α : Type} [DecidableEq α] : List α → List α → List α
  | a :: as, b :: bs => if a = b then a :: commonStart as bs else []
  | _, _ => []

/-- The pieces of a path that name something: neither empty nor `.`. -/
def namedPieces (s : List Char) : List (List Char) :=
  (pieces s).filter fun p => p ≠ [] ∧ p ≠ ['.']

/-- The deepest directory over two absolute paths, always with one slash at its start. -/
def commonDirectory (s t : List Char) : List Char :=
  '/' :: joinPieces (commonStart (namedPieces s) (namedPieces t))

/-! ### The same on strings -/

/-- Does the path start at the root? -/
def isAbsolute (path : String) : Bool := isAbsoluteChars path.toList

/-- The second path, seen from the first. -/
def join (base path : String) : String := String.ofList (joinChars base.toList path.toList)

/-- The normal absolute form of a path: the identity of the file that it names. -/
def normalize (cwd path : String) : String :=
  String.ofList (normalizeChars cwd.toList path.toList)

/-- The last component of a path. -/
def baseName (path : String) : String := String.ofList (baseNameChars path.toList)

/-- The directory part of a path. -/
def directory (path : String) : String := String.ofList (directoryChars path.toList)

/-- A path without its extension, and the extension. -/
def splitExtension (path : String) : String × String :=
  let (stem, ext) := splitExtensionChars path.toList
  (String.ofList stem, String.ofList ext)

/-- Is the path the root, or beneath it? Both are normalized, and the root has to be the deepest
directory over the two. -/
def isUnder (cwd path root : String) : Bool :=
  let r := normalizeChars cwd.toList root.toList
  commonDirectory (normalizeChars cwd.toList path.toList) r = r

end LiveCheck.Path
