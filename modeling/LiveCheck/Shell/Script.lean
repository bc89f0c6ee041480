import LiveCheck.Text.Digit

namespace LiveCheck.Shell

/-! ### Scripts of a shell

The tool of a project may be a line of shell script that runs something else. A script is a list of
commands, which are separated by semicolons or line ends, or linked by their success. A command is
a list of words, whose output may go to the error output, or a loop over words. In a word, single
quotes keep everything between them, double quotes keep blanks, and a dollar sign before a name
stands for a parameter. -/

/-- A part of a word. -/
inductive Piece where
  | literal (text : List Char) (quoted : Bool)
  | parameter (name : List Char) (quoted : Bool)
deriving DecidableEq, Repr

/-- A word: its parts in order. -/
abbrev Word := List Piece

/-- How a command hangs on the ones before it. -/
inductive Link where
  | always
  | afterSuccess
  | afterFailure
deriving DecidableEq, Repr

/-- What a script is cut into. -/
inductive Token where
  | word (w : Word)
  | link (l : Link)
  /-- The output of the command goes to the error output. -/
  | toErrors
deriving DecidableEq, Repr

/-! #### Tokens -/

/-- What the next character belongs to. -/
inductive Mode where
  | plain
  | escaped
  | single
  | double
  | doubleEscaped
  /-- After a dollar sign. -/
  | dollar (quoted : Bool)
  /-- In the name of a parameter, last character first. -/
  | name (letters : List Char) (quoted : Bool)
  /-- In such a name between braces. -/
  | braces (letters : List Char) (quoted : Bool)
deriving DecidableEq, Repr

/-- A script that is read up to some character: the tokens and the parts of the last word, latest
first. -/
structure Reading where
  tokens : List Token := []
  word : Option Word := none
  mode : Mode := .plain

namespace Reading

/-- The reading with one more part of the word. -/
def push (r : Reading) (p : Piece) : Reading := { r with word := some (p :: r.word.getD []) }

/-- The reading with one more character of the word. -/
def pushChar (r : Reading) (c : Char) (quoted : Bool) : Reading := r.push (.literal [c] quoted)

/-- The reading after the end of the word. -/
def endWord (r : Reading) : Reading :=
  match r.word with
  | none => r
  | some parts => { r with tokens := .word parts.reverse :: r.tokens, word := none }

/-- The reading with one more token after the end of the word. -/
def endWith (r : Reading) (t : Token) : Reading :=
  let r := r.endWord
  { r with tokens := t :: r.tokens }

/-- The mode outside of names. -/
def outer (quoted : Bool) : Mode := if quoted then .double else .plain

/-- Is the character part of the name of a parameter? -/
def isNameChar (c : Char) : Bool := c.isAlphanum || c = '_'

/-- Read a character outside of names. -/
def readOuter (r : Reading) (c : Char) : Reading :=
  match r.mode with
  | .single => if c = '\x27' then { r with mode := .plain } else r.pushChar c true
  | .double =>
    if c = '\x22' then { r with mode := .plain }
    else if c = '\x5c' then { r with mode := .doubleEscaped }
    else if c = '$' then { r with mode := .dollar true }
    else r.pushChar c true
  | _ =>
    if c = ' ' ∨ c = '\t' then r.endWord
    else if c = ';' ∨ c = '\n' then r.endWith (.link .always)
    else if c = '\x27' then { r.push (.literal [] true) with mode := .single }
    else if c = '\x22' then { r.push (.literal [] true) with mode := .double }
    else if c = '\x5c' then { r with mode := .escaped }
    else if c = '$' then { r with mode := .dollar false }
    else r.pushChar c false

/-- Read a character. -/
def read (r : Reading) (c : Char) : Reading :=
  match r.mode with
  | .escaped => { r.pushChar c true with mode := .plain }
  | .doubleEscaped =>
    let r := { r with mode := .double }
    if c = '\x22' ∨ c = '\x5c' ∨ c = '$' then r.pushChar c true
    else (r.pushChar '\x5c' true).pushChar c true
  | .dollar quoted =>
    if c = '\x7b' then { r with mode := .braces [] quoted }
    else if c.isDigit ∨ c ∈ ['@', '*', '#', '?', '$'] then
      { r.push (.parameter [c] quoted) with mode := outer quoted }
    else if isNameChar c then { r with mode := .name [c] quoted }
    else { r.pushChar '$' true with mode := outer quoted }.readOuter c
  | .name letters quoted =>
    if isNameChar c then { r with mode := .name (c :: letters) quoted }
    else { r.push (.parameter letters.reverse quoted) with mode := outer quoted }.readOuter c
  | .braces letters quoted =>
    if c = '\x7d' then { r.push (.parameter letters.reverse quoted) with mode := outer quoted }
    else { r with mode := .braces (c :: letters) quoted }
  | _ => r.readOuter c

/-- The reading after the last character; `none` if something is not closed. -/
def finish? (r : Reading) : Option (List Token) :=
  match r.mode with
  | .plain => some r.endWord.tokens.reverse
  | .name letters false => some (r.push (.parameter letters.reverse false)).endWord.tokens.reverse
  | .dollar false => some (r.pushChar '$' true).endWord.tokens.reverse
  | _ => none

end Reading

/-- The unquoted text of a word without parameters. -/
def plainText? (w : Word) : Option (List Char) :=
  w.foldr (fun p text => match p with
    | .literal s false => text.map (s ++ ·)
    | _ => none) (some [])

/-- The token that a word is: some words are links, and some direct the output. -/
def operator (t : Token) : Token :=
  match t with
  | .word w =>
    match plainText? w with
    | some ['&', '&'] => .link .afterSuccess
    | some ['|', '|'] => .link .afterFailure
    | some ['>', '&', '2'] | some ['1', '>', '&', '2'] => .toErrors
    | _ => t
  | _ => t

/-- The tokens of a script; `none` if something is not closed. -/
def tokens? (script : List Char) : Option (List Token) :=
  (script.foldl Reading.read {}).finish?.map fun tokens => tokens.map operator

/-! #### Commands -/

mutual

/-- A command. -/
inductive Command where
  | simple (words : List Word) (toErrors : Bool)
  /-- For every value of the words, do the body. -/
  | forEach (parameter : List Char) (words : List Word) (body : Script)

/-- Commands with their links. -/
inductive Script where
  | done
  | next (link : Link) (command : Command) (rest : Script)

end

instance : Inhabited Script := ⟨.done⟩

/-- The plain words at the start of a simple command, and what follows it. -/
def simpleWords : List Token → List Word × Bool × List Token
  | .word w :: rest =>
    let (words, toErrors, rest) := simpleWords rest
    (w :: words, toErrors, rest)
  | .toErrors :: rest =>
    let (words, _, rest) := simpleWords rest
    (words, true, rest)
  | rest => ([], false, rest)

/-- Is the token this word, without quotes? -/
def isKeyword (word : String) : Token → Bool
  | .word w => plainText? w = some word.toList
  | _ => false

/-- Read commands up to the end of the script or of the loop around them, with at most `fuel`
commands after and in each other. -/
def parseScript : (fuel : Nat) → Link → List Token → Option (Script × List Token)
  | 0, _, _ => none
  | _, _, [] => some (.done, [])
  | fuel + 1, link, t :: rest =>
    match t with
    | .link link => parseScript fuel link rest
    | _ =>
      if isKeyword "done" t then some (.done, rest)
      else if isKeyword "do" t then parseScript fuel .always rest
      else if isKeyword "for" t then
        match rest with
        | .word name :: in_ :: rest =>
          if !isKeyword "in" in_ then none
          else do
            let name ← plainText? name
            let (words, _, rest) := simpleWords rest
            let (body, rest) ← parseScript fuel .always rest
            let (script, rest) ← parseScript fuel .always rest
            some (.next link (.forEach name words body) script, rest)
        | _ => none
      else do
        let (words, toErrors, rest) := simpleWords (t :: rest)
        let (script, rest) ← parseScript fuel .always rest
        some (.next link (.simple words toErrors) script, rest)

/-- Read a script; `none` if it cannot be read. -/
def parse? (script : String) : Option Script := do
  let tokens ← tokens? script.toList
  let (script, _) ← parseScript (2 * tokens.length + 1) .always tokens
  some script

end LiveCheck.Shell
