namespace LiveCheck.Text

/-! ### Lines

There are two notions of a line. A document is edited, and its lines end at a line feed, a
carriage return, or both in this order; the last line has no end, so a text always has one line
more than it has line ends. The output of a tool is read line by line, and its lines end at every
character that is a line boundary; what follows the last end is a line only if it is not empty. -/

/-- The lines of a document, each with the characters that end it. -/
def documentLines : List Char → List (List Char × List Char)
  | [] => [([], [])]
  | '\r' :: '\n' :: rest => ([], ['\r', '\n']) :: documentLines rest
  | '\r' :: rest => ([], ['\r']) :: documentLines rest
  | '\n' :: rest => ([], ['\n']) :: documentLines rest
  | c :: rest =>
    match documentLines rest with
    | (text, stop) :: more => (c :: text, stop) :: more
    | [] => [([c], [])]

/-- The position where each of the lines starts, the first of them at `start`. -/
def lineStartsFrom (start : Nat) : List (List Char × List Char) → List Nat
  | [] => []
  | (text, stop) :: more => start :: lineStartsFrom (start + text.length + stop.length) more

/-- The position where each line of a document starts. -/
def lineStarts (s : List Char) : List Nat := lineStartsFrom 0 (documentLines s)

/-- The text with every line end written as a line feed. -/
def unifyLineEnds : List Char → List Char
  | [] => []
  | '\r' :: '\n' :: rest => '\n' :: unifyLineEnds rest
  | '\r' :: rest => '\n' :: unifyLineEnds rest
  | c :: rest => c :: unifyLineEnds rest

/-- Is the character a line boundary on its own? -/
def isLineBoundary (c : Char) : Bool :=
  c ∈ ['\n', '\r', '\x0b', '\x0c', '\x1c', '\x1d', '\x1e', '\u0085', '\u2028', '\u2029']

/-- The lines of an output, where `line` holds what is read of the first one, last character
first. -/
def outputLinesFrom (line : List Char) : List Char → List (List Char)
  | [] => if line = [] then [] else [line.reverse]
  | '\r' :: '\n' :: rest => line.reverse :: outputLinesFrom [] rest
  | c :: rest =>
    if isLineBoundary c then line.reverse :: outputLinesFrom [] rest
    else outputLinesFrom (c :: line) rest

/-- The lines of an output, without their ends. -/
def outputLines (s : List Char) : List (List Char) := outputLinesFrom [] s

end LiveCheck.Text
