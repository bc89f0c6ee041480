import LiveCheck.Text.Quoted

namespace LiveCheck

/-! ### Faults

What can go wrong is told apart by how the program reacts to it. A cancelled scan is no failure. A
failure of the checker is shown to the user, with its cause. Any other fault belongs to a family:
a system call failed, a text could not be decoded or encoded, a name could not be looked up, the
memory ran out, or something else happened. A fault of the last family ends the program and is no
ordinary error. -/

/-- How the program reacts to a fault that is not its own. -/
inductive Family where
  /-- A system call failed because there is no such file. -/
  | missing
  /-- A system call failed for another reason. -/
  | system
  /-- A text could not be decoded or encoded. -/
  | unicode
  /-- Something was looked up and not found. -/
  | lookup
  /-- A value was not acceptable. -/
  | value
  /-- The memory ran out. -/
  | memory
  /-- Any other error. -/
  | other
  /-- Not an error: the program is told to end. -/
  | fatal
deriving DecidableEq, Repr

/-- What a failure of the checker adds to its message. -/
inductive FailureDetail where
  /-- A failure without particulars. -/
  | general
  /-- A file could not be made ready for the tool. -/
  | validation (path : Option String)
  /-- The tool could not be started, or ended abnormally. -/
  | tool (exitCode : Option Int) (stderr : Option String)
deriving DecidableEq, Repr

/-- Something that went wrong. -/
inductive Fault where
  /-- The scan was cancelled. -/
  | cancelled (message : String)
  /-- A failure of the checker. -/
  | failure (detail : FailureDetail) (message : String)
  /-- A failure of the checker that another fault brought about. -/
  | failureFrom (detail : FailureDetail) (message : String) (cause : Fault)
  /-- A fault from outside, of the class `name`. -/
  | raised (family : Family) (name message : String)
deriving DecidableEq, Repr

namespace Fault

/-- A failure with the cause that is known for it. -/
def failed (detail : FailureDetail) (message : String) : (cause : Option Fault) → Fault
  | none => .failure detail message
  | some cause => .failureFrom detail message cause

/-- The text of a fault. -/
def message : Fault → String
  | cancelled message | failure _ message | failureFrom _ message _ | raised _ _ message => message

/-- The fault that brought a failure about. -/
def cause? : Fault → Option Fault
  | failureFrom _ _ cause => some cause
  | _ => none

/-- The particulars of a failure. -/
def detail? : Fault → Option FailureDetail
  | failure detail _ | failureFrom detail _ _ => some detail
  | _ => none

/-- Is the fault a failure of the checker? -/
def isFailure (f : Fault) : Bool := f.detail?.isSome

/-- The class of a fault, as the user reads it. -/
def className : Fault → String
  | cancelled _ => "ScanCancelledError"
  | failure detail _ | failureFrom detail _ _ =>
    match detail with
    | .general => "MypyPluginError"
    | .validation _ => "ScanValidationError"
    | .tool _ _ => "ToolInvocationError"
  | raised _ name _ => name

/-- Does the fault belong to the family? -/
def isIn (family : Family) : Fault → Bool
  | raised family' _ _ => family = family'
  | _ => false

/-- Did a system call fail? -/
def isSystem (f : Fault) : Bool := f.isIn .missing || f.isIn .system

/-- Could a text not be read: a system call failed, or the text could not be decoded? -/
def isUnreadable (f : Fault) : Bool := f.isSystem || f.isIn .unicode

/-- Could a text not be written: it could not be read, or its encoding is unknown? -/
def isUnwritable (f : Fault) : Bool := f.isUnreadable || f.isIn .lookup

/-- Did the memory run out? -/
def isMemory (f : Fault) : Bool := f.isIn .memory

/-- Is the program told to end? -/
def isFatal (f : Fault) : Bool := f.isIn .fatal

/-- Does the fault leave a scan? -/
def leaves (f : Fault) : Bool := f.isMemory || f.isFatal

/-! The faults that the library raises itself. -/

/-- A scan was found cancelled between two of its steps. -/
def scanCancelled : Fault := .cancelled "Scan cancelled"

/-- A value that is not acceptable. -/
def badValue (message : String) : Fault := .raised .value "ValueError" message

/-- A name that is not known. -/
def unknownName (message : String) : Fault := .raised .lookup "LookupError" message

/-- A file that is neither in a buffer nor on the disk. -/
def noSuchDocument (path : String) : Fault := .raised .missing "FileNotFoundError" path

/-- A tab stop of width zero. -/
def zeroModulus : Fault := .raised .other "ZeroDivisionError" "integer modulo by zero"

/-- A walk deeper than any chain of directories can be. It ends the program, as running out of
memory would. -/
def tooDeep : Fault := .raised .memory "MemoryError" ""

/-! Faults of classes named by the user. -/

/-- The classes of faults that have a family of their own. -/
def familyNames : List (Family × List String) :=
  [(.missing, ["FileNotFoundError"]),
   (.system, ["OSError", "BlockingIOError", "ChildProcessError",
     "ConnectionError", "BrokenPipeError", "ConnectionAbortedError", "ConnectionRefusedError",
     "ConnectionResetError", "FileExistsError", "InterruptedError", "IsADirectoryError",
     "NotADirectoryError", "PermissionError", "ProcessLookupError", "TimeoutError"]),
   (.unicode, ["UnicodeError", "UnicodeDecodeError", "UnicodeEncodeError",
     "UnicodeTranslateError"]),
   (.lookup, ["LookupError", "IndexError", "KeyError"]),
   (.value, ["ValueError"]),
   (.memory, ["MemoryError"]),
   (.fatal, ["BaseException", "KeyboardInterrupt", "SystemExit", "GeneratorExit"])]

/-- The family of a class; a class that is not listed is an error like any other. -/
def familyOf (name : String) : Family :=
  match familyNames.find? fun entry => entry.2.contains name with
  | some (family, _) => family
  | none => .other

/-- The name that a class shows itself with: two classes have an old name beside it. -/
def canonicalName (name : String) : String :=
  if name = "IOError" ∨ name = "EnvironmentError" then "OSError" else name

/-- The fault of a class with one text. A failed key look-up shows its key between quotes. -/
def ofClass (name message : String) : Fault :=
  let name := canonicalName name
  .raised (familyOf name) name (if name = "KeyError" then Text.quoteString message else message)

end Fault

end LiveCheck
