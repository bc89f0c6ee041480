import LiveCheck.Diagnostic.Basic
import LiveCheck.Diagnostic.Column
import LiveCheck.Diagnostic.Line
import LiveCheck.Program

namespace LiveCheck

/-! ### Attribution: from printed lines to the diagnostics of files

Each line that has the form of a report names a path. The path is looked up among the paths that
the tool was given, and the diagnostic is added to the file behind it; lines about other files and
all other lines are passed over. When documents are at hand, a diagnostic gets an offset into the
text as the editor shows it; they are locked meanwhile. -/

namespace Attribution

/-- A number as it is printed in a report. -/
def readNumber (digits : List Char) : Except Fault Int :=
  if digits.length > Text.maxDigits then
    .error (.badValue ("Exceeds the limit (" ++ Text.natString Text.maxDigits ++
      " digits) for integer string conversion: value has " ++ Text.natString digits.length ++
      " digits; use sys.set_int_max_str_digits() to increase the limit"))
  else .ok (Text.numeralValue digits)

/-- What attribution needs to know. -/
structure Setup where
  tabWidth : Int
  cwd : String
  /-- The directory that relative paths in a report start from; the current one if none is given. -/
  base : Option String
  /-- Are documents at hand? -/
  withDocuments : Bool
deriving DecidableEq, Repr

/-- The directory that relative paths in a report start from. -/
def Setup.baseDirectory (setup : Setup) : String :=
  match setup.base with
  | none | some "" => setup.cwd
  | some base => base

/-- The normal form of a path in a report. -/
def Setup.resolvePath (setup : Setup) (path : String) : String :=
  Path.normalize setup.cwd (Path.join setup.baseDirectory path)

/-- The texts that were read so far; `none` for a file that cannot be read. -/
abbrev Texts := Table Handle (Option DocumentText)

/-- The text of a file, read when it is needed for the first time. -/
def textOf (texts : Texts) (h : Handle) : Action (Option DocumentText × Texts) :=
  match texts.get? h with
  | some text => pure (text, texts)
  | none => do
    match ← Action.ofTotal (.request (.currentText h)) with
    | .ok s =>
      let text := some (DocumentText.ofChars s.toList)
      pure (text, texts.put h text)
    | .error fault =>
      if fault.isUnreadable then pure (none, texts.put h none) else throw fault

/-- The offset of a place in a file. -/
def offset (setup : Setup) (texts : Texts) (h : Handle) (line column : Int) :
    Action (Option Int × Texts) :=
  if setup.withDocuments then do
    match ← textOf texts h with
    | (none, texts) => pure (none, texts)
    | (some text, texts) =>
      let offset ← Action.ofExcept (text.offset line column setup.tabWidth)
      pure (some (offset : Int), texts)
  else pure (none, texts)

/-- A column as it is printed in a report. A missing column is the first one. -/
def readColumn : Option (List Char) → Except Fault Int
  | some digits => readNumber digits
  | none => .ok 1

/-- The diagnostic of a line about a file. -/
def diagnostic (setup : Setup) (texts : Texts) (h : Handle) (parts : ReportLine) :
    Action (Diagnostic × Texts) := do
  let line ← Action.ofExcept (readNumber parts.line)
  let column ← Action.ofExcept (readColumn parts.column)
  let (offset, texts) ← offset setup texts h line column
  pure ({ file := h, line, column, offset
          severity := .parse (some (String.ofList parts.severity))
          message := Text.trimString (String.ofList parts.message)
          code := parts.code.map String.ofList }, texts)

/-- Add the diagnostics of lines to those that files have. -/
def addLines (setup : Setup) (files : Table String Handle) (texts : Texts)
    (problems : Table Handle (List Diagnostic)) :
    List String → Action (Table Handle (List Diagnostic))
  | [] => pure problems
  | line :: rest =>
    match ReportLine.parse? (Text.trim line.toList) with
    | none => addLines setup files texts problems rest
    | some parts =>
      match files.get? (setup.resolvePath (String.ofList parts.path)) with
      | none => addLines setup files texts problems rest
      | some h => do
        let (found, texts) ← diagnostic setup texts h parts
        addLines setup files texts (problems.modify h (· ++ [found])) rest

/-- The files with no diagnostics yet. -/
def noProblems (mapping : Table String Handle) : Table Handle (List Diagnostic) :=
  Table.ofPairs (mapping.map fun entry => (entry.2, []))

/-- The files by the normal forms of the paths that the tool was given. -/
def normalPaths (setup : Setup) (mapping : Table String Handle) : Table String Handle :=
  Table.ofPairs (mapping.map fun entry => (Path.normalize setup.cwd entry.1, entry.2))

/-- The diagnostics of the files, in the order in which they were printed. -/
def ofLines (setup : Setup) (mapping : Table String Handle) (lines : List String) :
    Action (Table Handle (List Diagnostic)) :=
  let add := addLines setup (normalPaths setup mapping) [] (noProblems mapping) lines
  if setup.withDocuments then Action.ofProgram do
    match ← Program.request .lock with
    | .error fault => pure (.error fault)
    | .ok () =>
      let result ← add.attempt
      let unlocked ← Program.request .unlock
      pure (unlockedWith result unlocked)
  else add

end Attribution

end LiveCheck
