import LiveCheck.Text.Blank
import LiveCheck.Text.Digit
import LiveCheck.Text.Word

namespace LiveCheck

/-! ### The line of a report

The checker prints one diagnostic on a line:

    path ":" line ":" [column ":"] blanks severity ":" blank message [blanks "[" code "]"] blanks

The path holds no colon, but one letter and a colon may stand in front of it. The numbers are
decimal digits of any script, the severity is made of word characters, the code of word
characters, hyphens and dots. The message holds no line feed and is as short as the rest of the
line allows, so it takes neither the blanks at the end nor a code that ends the line. -/

/-- The parts of the line of a report, as they stand in it. -/
structure ReportLine where
  path : List Char
  line : List Char
  column : Option (List Char)
  severity : List Char
  message : List Char
  code : Option (List Char)
deriving DecidableEq, Repr

namespace ReportLine

/-- The longest start of a text in a class, if it is not empty, and the rest. -/
def run? (p : Char → Bool) (s : List Char) : Option (List Char × List Char) :=
  match s.span p with
  | ([], _) => none
  | (start, rest) => some (start, rest)

/-- The text after its first character, which has to be `c`. -/
def after? (c : Char) : List Char → Option (List Char)
  | [] => none
  | d :: rest => if d = c then some rest else none

/-- May the character stand in a code? -/
def isCodeChar (c : Char) : Bool := Text.isWord c || c = '-' || c = '.'

/-- The end of a line after its message: blanks and a code in brackets, then blanks; or blanks
alone. The code, if the line has one. -/
def ending? (s : List Char) : Option (Option (List Char)) :=
  let coded : Option (List Char) := do
    let (_, s) ← run? Text.isBlank s
    let s ← after? '[' s
    let (code, s) ← run? isCodeChar s
    let s ← after? ']' s
    if Text.allBlank s then some code else none
  match coded with
  | some code => some (some code)
  | none => if Text.allBlank s then some none else none

/-- The message and the code at the end of a line: the shortest message after which the line can
end. -/
def messageAndCode? (s : List Char) : Option (List Char × Option (List Char)) :=
  match ending? s with
  | some code => some ([], code)
  | none =>
    match s with
    | [] => none
    | c :: rest =>
      if c = '\n' then none
      else (messageAndCode? rest).map fun (message, code) => (c :: message, code)

/-- The column of a report and the text after it. A column is there when a digit is next. -/
def column? (s : List Char) : Option (Option (List Char) × List Char) :=
  match run? Text.isDigit s with
  | none => some (none, s)
  | some (digits, s) => (after? ':' s).map fun s => (some digits, s)

/-- The parts of a line after its path. -/
def afterPath? (path s : List Char) : Option ReportLine := do
  let s ← after? ':' s
  let (line, s) ← run? Text.isDigit s
  let s ← after? ':' s
  let (column, s) ← column? s
  let (_, s) ← run? Text.isBlank s
  let (severity, s) ← run? Text.isWord s
  let s ← after? ':' s
  match s with
  | [] => none
  | c :: s =>
    if Text.isBlank c then
      let (message, code) ← messageAndCode? s
      some { path, line, column, severity, message, code }
    else none

/-- Is the character an ASCII letter? -/
def isLetter (c : Char) : Bool := ('a' ≤ c && c ≤ 'z') || ('A' ≤ c && c ≤ 'Z')

/-- The parts of a line whose path starts with a letter and a colon. -/
def withDrive? : List Char → Option ReportLine
  | letter :: ':' :: s =>
    if isLetter letter then
      match run? (· ≠ ':') s with
      | some (path, s) => afterPath? (letter :: ':' :: path) s
      | none => none
    else none
  | _ => none

/-- The parts of a line whose path holds no colon. -/
def withoutDrive? (s : List Char) : Option ReportLine :=
  match run? (· ≠ ':') s with
  | some (path, s) => afterPath? path s
  | none => none

/-- The parts of the line of a report; a letter and a colon at its start belong to the path if the
line can be read that way. -/
def parse? (s : List Char) : Option ReportLine :=
  match withDrive? s with
  | some parts => some parts
  | none => withoutDrive? s

/-- Has the line, without the blanks around it, the form of a report? -/
def isReport (line : String) : Bool := (parse? (Text.trim line.toList)).isSome

end ReportLine

end LiveCheck
