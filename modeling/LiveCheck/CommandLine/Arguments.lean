import LiveCheck.Text.Digit
import LiveCheck.Text.Numeral
import LiveCheck.Text.Quoted

namespace LiveCheck.CommandLine

/-! ### Arguments of the command line

An argument is an option, a word, or the mark `--`, after which everything is a word. An option
may be cut short as long as it stays unique; its value follows it, or stands after an equals sign.
Options of one letter may be written together. The words are the roots of the scan, and they have
to stand together: what comes after them, once an option has come between, is not recognized. -/

/-- An option. -/
inductive Flag where
  | help
  | project
  | allFiles
  | tabWidth
  | configFile
  | verbose
deriving DecidableEq, Repr

namespace Flag

/-- The spellings of the options. -/
def spellings : List (String × Flag) :=
  [("-h", help), ("--help", help), ("--project", project), ("--all-files", allFiles),
   ("--tab-width", tabWidth), ("--config-file", configFile), ("--verbose", verbose),
   ("-v", verbose)]

/-- The option of a spelling. -/
def ofSpelling? (s : String) : Option Flag :=
  (spellings.find? fun entry => entry.1 = s).map (·.2)

/-- Has the option a value? -/
def takesValue : Flag → Bool
  | project | tabWidth | configFile => true
  | help | allFiles | verbose => false

/-- The option as complaints name it: all of its spellings. -/
def shown (f : Flag) : String :=
  "/".intercalate ((spellings.filter fun entry => entry.2 = f).map (·.1))

end Flag

/-- What is wrong with the arguments. -/
inductive Misuse where
  | ambiguous (given : String) (candidates : List String)
  | valueMissing (flag : Flag)
  | valueIgnored (flag : Flag) (value : String)
  | badInteger (flag : Flag) (value : String)
  | unrecognized (arguments : List String)
deriving DecidableEq, Repr

/-- The text of a complaint about arguments. -/
def Misuse.message : Misuse → String
  | ambiguous given candidates =>
    "ambiguous option: " ++ given ++ " could match " ++ ", ".intercalate candidates
  | valueMissing flag => "argument " ++ flag.shown ++ ": expected one argument"
  | valueIgnored flag value =>
    "argument " ++ flag.shown ++ ": ignored explicit argument " ++ Text.quoteString value
  | badInteger flag value =>
    "argument " ++ flag.shown ++ ": invalid int value: " ++ Text.quoteString value
  | unrecognized arguments => "unrecognized arguments: " ++ " ".intercalate arguments

/-- What stands in the same argument after an option. -/
inductive Attached where
  | nothing
  /-- A text after an equals sign. -/
  | value (text : List Char)
  /-- A text right after a letter. -/
  | letters (text : List Char)
deriving DecidableEq, Repr

/-- What an argument is. -/
inductive Token where
  | word (text : String)
  | mark
  /-- An option; `short` if it is written as one letter. -/
  | option (flag : Flag) (short : Bool) (attached : Attached)
  | unknown (text : String)
deriving DecidableEq, Repr

/-- The argument of a token that is not an option. -/
def Token.text : Token → String
  | word text | unknown text => text
  | mark => "--"
  | option _ _ _ => ""

/-! ### What an argument is -/

/-- A text split at its first equals sign, if it has one. -/
def splitEquals (s : List Char) : List Char × Attached :=
  match s.span (· ≠ '=') with
  | (start, _ :: value) => (start, .value value)
  | (start, []) => (start, .nothing)

/-- Is the text a number with a minus sign: digits, or a point with digits after it? -/
def isNegativeNumber : List Char → Bool
  | '-' :: rest =>
    let rest := if rest.getLast? = some '\n' then rest.dropLast else rest
    match rest.span Text.isDigit with
    | (whole, []) => whole ≠ []
    | (_, '.' :: places) => places ≠ [] && places.all Text.isDigit
    | _ => false
  | _ => false

/-- The options that a text may stand for, with their spellings. -/
def candidates (s : List Char) : List (String × Token) :=
  match s with
  | '-' :: '-' :: _ =>
    let (start, attached) := splitEquals s
    (Flag.spellings.filter fun entry => start.isPrefixOf entry.1.toList).map fun entry =>
      (entry.1, .option entry.2 (entry.1.length = 2) attached)
  | '-' :: letter :: rest =>
    Flag.spellings.filterMap fun entry =>
      if entry.1.toList = ['-', letter] then
        some (entry.1, .option entry.2 true (.letters rest))
      else if s.isPrefixOf entry.1.toList then some (entry.1, .option entry.2 false .nothing)
      else none
  | _ => []

/-- What an argument before the mark is. -/
def classify (argument : String) : Except Misuse Token :=
  let s := argument.toList
  if s.head? ≠ some '-' then .ok (.word argument)
  else match Flag.ofSpelling? argument with
    | some flag => .ok (.option flag (s.length = 2) .nothing)
    | none =>
      if s.length = 1 then .ok (.word argument)
      else
        let (start, attached) := splitEquals s
        match attached, Flag.ofSpelling? (String.ofList start) with
        | .value _, some flag => .ok (.option flag (start.length = 2) attached)
        | _, _ =>
          match candidates s with
          | [(_, token)] => .ok token
          | [] =>
            if isNegativeNumber s || s.contains ' ' then .ok (.word argument)
            else .ok (.unknown argument)
          | several => .error (.ambiguous argument (several.map (·.1)))

/-- What the arguments are. -/
def tokens : List String → Except Misuse (List Token)
  | [] => .ok []
  | argument :: rest =>
    if argument = "--" then .ok (.mark :: rest.map .word)
    else do
      let token ← classify argument
      let more ← tokens rest
      .ok (token :: more)

/-! ### What the arguments mean -/

/-- The arguments of a run. -/
structure Arguments where
  roots : List String := []
  project : Option String := none
  allFiles : Bool := false
  tabWidth : Option Int := none
  configFile : Option String := none
  verbose : Bool := false
deriving DecidableEq, Repr

/-- What has been read of the arguments. -/
structure Reading where
  arguments : Arguments := {}
  /-- Have the roots been read? -/
  rootsRead : Bool := false
  helpAsked : Bool := false
  unrecognized : List String := []
deriving DecidableEq, Repr

/-- Use an option without a value. -/
def Reading.useFlag (r : Reading) (flag : Flag) : Reading :=
  match flag with
  | .help => { r with helpAsked := true }
  | .allFiles => { r with arguments := { r.arguments with allFiles := true } }
  | .verbose => { r with arguments := { r.arguments with verbose := true } }
  | _ => r

/-- Use an option with its value. -/
def Reading.useValue (r : Reading) (flag : Flag) (value : String) : Except Misuse Reading :=
  match flag with
  | .project => .ok { r with arguments := { r.arguments with project := some value } }
  | .configFile => .ok { r with arguments := { r.arguments with configFile := some value } }
  | .tabWidth =>
    match Text.readInt? value.toList with
    | some n => .ok { r with arguments := { r.arguments with tabWidth := some n } }
    | none => .error (.badInteger flag value)
  | _ => .ok r

/-- The letters written together after the option `flag` of one letter: the options that they are,
and what is not recognized. A letter with a value takes all that follows; `equals` tells that the
text stands after an equals sign. -/
def cluster (flag : Flag) (equals : Bool) :
    List Char → Except Misuse (List Flag × List String)
  | [] => if equals then .error (.valueIgnored flag "") else .ok ([flag], [])
  | c :: rest =>
    if equals ∨ c = '-' then .error (.valueIgnored flag (String.ofList (c :: rest)))
    else match Flag.ofSpelling? (String.ofList ['-', c]) with
      | none => .ok ([flag], [String.ofList ('-' :: c :: rest)])
      | some next =>
        match rest with
        | '=' :: value =>
          .error (.valueIgnored next (String.ofList value))
        | rest => (cluster next false rest).map fun (flags, extra) => (flag :: flags, extra)

/-- Read the roots: the words that stand together, without the first mark among them; or, if the
roots have been read already, what is not recognized. -/
def Reading.takeWords (r : Reading) (words : List Token) : Reading :=
  if r.rootsRead then
    { r with unrecognized := r.unrecognized ++ words.map Token.text }
  else
    { r with
      rootsRead := true
      arguments := { r.arguments with roots := (words.erase .mark).map Token.text } }

/-- Is the token a word or the mark? -/
def Token.isWord : Token → Bool
  | word _ | mark => true
  | _ => false

/-- Read tokens, where `words` holds the words that were read last. Reading stops when help is
asked for. -/
def Reading.read (r : Reading) (words : List Token) : List Token → Except Misuse Reading
  | [] => .ok (if words = [] then r else r.takeWords words)
  | token :: rest =>
    if token.isWord then r.read (words ++ [token]) rest
    else
      let r := if words = [] then r else r.takeWords words
      match token with
      | .option flag short attached =>
        if flag.takesValue then
          match attached, rest with
          | .value value, rest | .letters value, rest => do
            (← r.useValue flag (String.ofList value)).read [] rest
          | .nothing, .word value :: rest => do (← r.useValue flag value).read [] rest
          | .nothing, _ => .error (.valueMissing flag)
        else
          let flags : Except Misuse (List Flag × List String) := match attached with
            | .nothing => .ok ([flag], [])
            | .value value =>
              if short then cluster flag true value
              else .error (.valueIgnored flag (String.ofList value))
            | .letters letters => cluster flag false letters
          match flags with
          | .error misuse => .error misuse
          | .ok (flags, extra) =>
            let r := flags.foldl Reading.useFlag r
            if r.helpAsked then .ok r
            else { r with unrecognized := r.unrecognized ++ extra }.read [] rest
      | token => { r with unrecognized := r.unrecognized ++ [token.text] }.read [] rest

/-- What the arguments ask for. -/
inductive Wish where
  | help
  | run (arguments : Arguments)
deriving DecidableEq, Repr

/-- What the arguments ask for, or what is wrong with them. -/
def parse (arguments : List String) : Except Misuse Wish := do
  let r ← Reading.read {} [] (← tokens arguments)
  if r.helpAsked then .ok .help
  else if r.unrecognized ≠ [] then .error (.unrecognized r.unrecognized)
  else .ok (.run r.arguments)

/-! ### Texts -/

/-- The name of the program. -/
def programName : String := "mypy-scan"

/-- How the program is used. -/
def usage : String :=
  "usage: mypy-scan [-h] [--project PROJECT] [--all-files]\n" ++
  "                 [--tab-width TAB_WIDTH] [--config-file CONFIG_FILE]\n" ++
  "                 [--verbose]\n" ++
  "                 [roots ...]\n"

/-- What the program does, and all of its arguments. -/
def helpText : String :=
  usage ++
  "\nScan Python sources with mypy and print per-file diagnostics\n" ++
  "\npositional arguments:\n" ++
  "  roots                 Directories or files to scan (default: the project\n" ++
  "                        directory)\n" ++
  "\noptions:\n" ++
  "  -h, --help            show this help message and exit\n" ++
  "  --project PROJECT     Project base directory (default: current directory)\n" ++
  "  --all-files           Scan every Python file in the project, not only source\n" ++
  "                        roots\n" ++
  "  --tab-width TAB_WIDTH\n" ++
  "                        Tab stop used for column translation\n" ++
  "  --config-file CONFIG_FILE\n" ++
  "                        mypy config file (default: located in the project\n" ++
  "                        directory)\n" ++
  "  --verbose, -v         Debug logging\n"

/-- What is printed about wrong arguments. -/
def misuseText (misuse : Misuse) : String :=
  usage ++ programName ++ ": error: " ++ misuse.message ++ "\n"

end LiveCheck.CommandLine
