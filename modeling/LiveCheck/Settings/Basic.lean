import LiveCheck.Project
import LiveCheck.Settings.Reading
import LiveCheck.Text.Blank

namespace LiveCheck

/-! ### Settings

There are nine settings. Each is decided by its own rule from the value that is given for it, and
has a default when none is given. A rule either accepts a value or complains; the complaints of
all settings are reported together, in the order of the settings. -/

/-- One of the settings. -/
inductive Setting where
  | command
  | arguments
  | configFile
  | tabWidth
  | allFiles
  | extensions
  | scratchDir
  | maxWorkers
  | pollInterval
deriving DecidableEq, Repr

namespace Setting

/-- All settings, in the order in which complaints are reported. -/
def all : List Setting :=
  [command, arguments, configFile, tabWidth, allFiles, extensions, scratchDir, maxWorkers,
    pollInterval]

/-- The name of a setting. -/
def name : Setting → String
  | command => "mypy_command"
  | arguments => "mypy_arguments"
  | configFile => "config_file"
  | tabWidth => "tab_width"
  | allFiles => "scan_all_files"
  | extensions => "source_extensions"
  | scratchDir => "scratch_dir"
  | maxWorkers => "max_workers"
  | pollInterval => "poll_interval"

/-- The environment variable of a setting. -/
def environmentName : Setting → String
  | command => "MYPY_SCAN_CMD"
  | arguments => "MYPY_SCAN_ARGS"
  | configFile => "MYPY_SCAN_CONFIG_FILE"
  | tabWidth => "MYPY_SCAN_TAB_WIDTH"
  | allFiles => "MYPY_SCAN_ALL_FILES"
  | extensions => "MYPY_SCAN_EXTENSIONS"
  | scratchDir => "MYPY_SCAN_SCRATCH_DIR"
  | maxWorkers => "MYPY_SCAN_MAX_WORKERS"
  | pollInterval => "MYPY_SCAN_POLL_INTERVAL"

/-- The setting with this name. -/
def ofName? (s : String) : Option Setting := all.find? (·.name = s)

end Setting

/-! What a rule complains about itself. -/

namespace Complaint

/-- An integer below one. -/
def belowOne : Complaint := ⟨"greater_than_equal", "Input should be greater than or equal to 1"⟩

/-- A number that is not above zero. -/
def notPositive : Complaint := ⟨"greater_than", "Input should be greater than 0"⟩

/-- A command that is blank. -/
def emptyCommand : Complaint := ⟨"value_error", "Value error, mypy_command must not be empty"⟩

/-- A list without an extension. -/
def noExtension : Complaint :=
  ⟨"value_error", "Value error, source_extensions must name at least one extension"⟩

end Complaint

/-- The settings of one run. -/
structure Settings where
  command : String
  arguments : String
  configFile : Option String
  tabWidth : Nat
  allFiles : Bool
  extensions : List String
  scratchDir : Option String
  maxWorkers : Nat
  pollInterval : Float
  one_le_tabWidth : 1 ≤ tabWidth := by decide
  one_le_maxWorkers : 1 ≤ maxWorkers := by decide
  extensions_ne_nil : extensions ≠ [] := by decide

namespace Settings

/-- The settings when nothing is configured. -/
def default : Settings where
  command := "mypy"
  arguments := ""
  configFile := none
  tabWidth := 4
  allFiles := false
  extensions := defaultExtensions
  scratchDir := none
  maxWorkers := 1
  pollInterval := 0.1

/-! ### The rules for one value

A rule reads a value and may look at it before or afterwards. -/

section Rules

variable (reader : Reader)

/-- A command: a text with more than blanks, without the blanks around it. -/
def readCommand (v : Value) : Except Complaint String := do
  let s ← reader.text v
  if Text.isBlankString s then .error .emptyCommand else .ok (Text.trimString s)

/-- A text that may be missing; a blank one counts as missing. -/
def readOptionalText : Value → Except Complaint (Option String)
  | .null => .ok none
  | .text s => if Text.isBlankString s then .ok none else some <$> reader.text (.text s)
  | v => some <$> reader.text v

/-- An integer of at least one. -/
def readPositive (v : Value) : Except Complaint { n : Nat // 1 ≤ n } := do
  let n ← reader.integer v
  if h : 1 ≤ n then .ok ⟨n.toNat, by omega⟩ else .error .belowOne

/-- The words for yes. -/
def yesWords : List String := ["1", "true", "yes", "on"]

/-- A logical value: a text means yes if it is one of the words for it. -/
def readBool : Value → Except Complaint Bool
  | .text s => reader.bool (.bool (yesWords.contains (Text.lowerString (Text.trimString s))))
  | v => reader.bool v

/-- A number above zero. -/
def readInterval (v : Value) : Except Complaint Float := do
  let x ← reader.number v
  if x > 0 then .ok x else .error .notPositive

end Rules

/-- The texts that a list of extensions is given as: the parts of a text between commas, the
elements of a list, the names of a record, what another object is made of, or nothing. -/
def extensionTexts : Value → List String
  | .text s => s.splitOn ","
  | .list xs => xs.map Value.asText
  | .record fields => fields.map (·.1)
  | .object _ _ _ (some parts) => parts
  | _ => []

/-- An extension in its usual form: in lower case, with a dot; `none` for a blank text. -/
def extension? (s : String) : Option String :=
  let s := Text.lowerString (Text.trimString s)
  if s = "" then none else if s.toList.head? = some '.' then some s else some ("." ++ s)

/-- A list of at least one extension. -/
def readExtensions (v : Value) : Except Complaint { l : List String // l ≠ [] } :=
  let found := (extensionTexts v).filterMap extension?
  if h : found ≠ [] then .ok ⟨found, h⟩ else .error .noExtension

/-! ### All settings together -/

/-- A value that was refused. -/
structure Refusal where
  setting : Setting
  complaint : Complaint
  value : Value

/-- Decide one setting: its default if no value is given for it. -/
def decideSetting {α : Type} (given : Setting → Option Value) (setting : Setting) (default : α)
    (read : Value → Except Complaint α) : Except Refusal α :=
  match given setting with
  | none => .ok default
  | some value =>
    match read value with
    | .ok x => .ok x
    | .error complaint => .error { setting, complaint, value }

/-- Why no settings come of the values. -/
inductive Rejection where
  /-- The extensions are a value of this kind, which holds no parts. -/
  | noParts (kind : String)
  /-- Values were refused. -/
  | refused (refusals : List Refusal)

/-- The fault of extensions that hold no parts. -/
def noPartsFault (kind : String) : Fault :=
  .raised .other "TypeError" ("\x27" ++ kind ++ "\x27 object is not iterable")

/-- The refusal in a decision, if it is one. -/
def refusalIn {α : Type} : Except Refusal α → List Refusal
  | .ok _ => []
  | .error r => [r]

/-- The kind of a value that is neither empty nor made of parts. -/
def kindWithoutParts? (v : Value) : Option String :=
  match v with
  | .int n => if n = 0 then none else some v.kindName
  | .float x => if x == 0 then none else some v.kindName
  | .bool b => if b then some v.kindName else none
  | .object _ _ _ none => some v.kindName
  | _ => none

section Reading

variable (reader : Reader)

/-- Decide all settings, if the extensions are made of parts. -/
def decideAll (given : Setting → Option Value) : Except (List Refusal) Settings :=
  let command := decideSetting given .command default.command (readCommand reader)
  let arguments := decideSetting given .arguments default.arguments reader.text
  let configFile := decideSetting given .configFile default.configFile (readOptionalText reader)
  let tabWidth :=
    decideSetting given .tabWidth ⟨default.tabWidth, default.one_le_tabWidth⟩
      (readPositive reader)
  let allFiles := decideSetting given .allFiles default.allFiles (readBool reader)
  let extensions :=
    decideSetting given .extensions ⟨default.extensions, default.extensions_ne_nil⟩ readExtensions
  let scratchDir := decideSetting given .scratchDir default.scratchDir (readOptionalText reader)
  let maxWorkers :=
    decideSetting given .maxWorkers ⟨default.maxWorkers, default.one_le_maxWorkers⟩
      (readPositive reader)
  let pollInterval := decideSetting given .pollInterval default.pollInterval (readInterval reader)
  match command, arguments, configFile, tabWidth, allFiles, extensions, scratchDir, maxWorkers,
    pollInterval with
  | .ok command, .ok arguments, .ok configFile, .ok ⟨tabWidth, one_le_tabWidth⟩, .ok allFiles,
    .ok ⟨extensions, extensions_ne_nil⟩, .ok scratchDir, .ok ⟨maxWorkers, one_le_maxWorkers⟩,
    .ok pollInterval =>
    .ok { command, arguments, configFile, tabWidth, allFiles, extensions, scratchDir, maxWorkers,
          pollInterval, one_le_tabWidth, one_le_maxWorkers, extensions_ne_nil }
  | command, arguments, configFile, tabWidth, allFiles, extensions, scratchDir, maxWorkers,
    pollInterval =>
    .error (refusalIn command ++ refusalIn arguments ++ refusalIn configFile ++
      refusalIn tabWidth ++ refusalIn allFiles ++ refusalIn extensions ++ refusalIn scratchDir ++
      refusalIn maxWorkers ++ refusalIn pollInterval)

end Reading

/-- Decide all settings from the values given for them. -/
def ofGiven (given : Setting → Option Value) (reader : Reader := .usual) :
    Except Rejection Settings :=
  match (given .extensions).bind kindWithoutParts? with
  | some kind => .error (.noParts kind)
  | none => (decideAll reader given).mapError .refused

/-- The value given for a setting by an override, if there is one that is not null, and else by
the environment. -/
def merged (environment : String → Option String) (override : Setting → Option Value)
    (setting : Setting) : Option Value :=
  match override setting with
  | some .null | none => (environment setting.environmentName).map .text
  | some value => some value

/-- The settings from the environment and from overrides, which win. -/
def load (environment : String → Option String) (override : Setting → Option Value)
    (reader : Reader := .usual) : Except Rejection Settings :=
  ofGiven (merged environment override) reader

/-! ### The report of refused values -/

/-- A text of more than fifty bytes, shortened to its start and its end. -/
def shorten (s : String) : String :=
  let width (cs : List Char) : Nat := cs.foldl (fun n c => n + c.utf8Size) 0
  let cs := s.toList
  let n := width cs
  if n ≤ 50 then s
  else
    let starts := (List.range (cs.length + 1)).map fun i => (i, width (cs.take i))
    let front := ((starts.filter fun p => p.2 ≤ 25).getLast?.map (·.1)).getD 0
    let back := ((starts.find? fun p => n - 24 ≤ p.2).map (·.1)).getD 0
    String.ofList (cs.take front) ++ "..." ++ String.ofList (cs.drop back)

/-- The report of one refused value. -/
def Refusal.report (r : Refusal) : String :=
  r.setting.name ++ "\n  " ++ r.complaint.message ++ " [type=" ++ r.complaint.code ++
    ", input_value=" ++ shorten r.value.shown ++ ", input_type=" ++ r.value.kindName ++ "]"

/-- The report of refused values, one after the other. -/
def report (refusals : List Refusal) : String :=
  let count := refusals.length
  "\n".intercalate
    ((Text.natString count ++ " validation error" ++ (if count = 1 then "" else "s") ++
      " for ScanSettings") :: refusals.map Refusal.report)

end Settings

end LiveCheck
