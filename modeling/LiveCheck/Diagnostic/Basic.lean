import LiveCheck.Fault
import LiveCheck.Handle
import LiveCheck.Text.Blank
import LiveCheck.Text.Numeral

namespace LiveCheck

/-! ### Diagnostics

A diagnostic is one complaint of the checker about one file. Its line and its column are one-based
and stand as they were reported; its offset is a position in the text of the document, if one could
be computed. -/

/-- How grave a diagnostic is. -/
inductive Severity where
  | error
  | warning
  | note
deriving DecidableEq, Repr

namespace Severity

/-- The word for a severity. -/
def word : Severity → String
  | error => "error"
  | warning => "warning"
  | note => "note"

/-- The severity with exactly this word. -/
def ofWord? (s : String) : Option Severity := [error, warning, note].find? (·.word = s)

/-- The fault of a word that no severity has. -/
def unknownFault (s : String) : Fault :=
  .badValue (Text.quoteString s ++ " is not a valid Severity")

/-- The severity that a report means, whatever blanks and capitals it is written with; an unknown
word and a missing one mean an error. -/
def parse (s : Option String) : Severity :=
  (ofWord? (Text.lowerString (Text.trimString (s.getD "")))).getD error

end Severity

/-- One complaint about one file. -/
structure Diagnostic where
  file : Handle
  line : Int
  column : Int
  severity : Severity
  message : String
  code : Option String
  offset : Option Int
deriving DecidableEq, Repr

namespace Diagnostic

/-- The diagnostic on one line: the place, the severity and the message, and after two spaces the
code in brackets, unless it is missing or empty. -/
def format (d : Diagnostic) : String :=
  let text := d.file.path ++ ":" ++ Text.intString d.line ++ ":" ++ Text.intString d.column ++
    ": " ++ d.severity.word ++ ": " ++ d.message
  match d.code with
  | some code => if code = "" then text else text ++ "  [" ++ code ++ "]"
  | none => text

/-- The order of a listing: by path, then by line, then by column. -/
def precedes (d e : Diagnostic) : Bool :=
  if d.file.path = e.file.path then
    if d.line = e.line then d.column ≤ e.column else d.line < e.line
  else d.file.path < e.file.path

/-- The diagnostics in the order of a listing; those of one place stay as they are. -/
def sort (ds : List Diagnostic) : List Diagnostic := ds.mergeSort precedes

end Diagnostic

end LiveCheck
