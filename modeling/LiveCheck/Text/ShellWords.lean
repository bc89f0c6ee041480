namespace LiveCheck.Text

/-! ### Words of a command line

A command line is cut into words at blanks (space, tab, line feed, carriage return). Single quotes
keep everything between them; double quotes keep everything but a backslash before a double quote
or a backslash; outside quotes a backslash keeps the next character. Quotes make a word even when
nothing stands between them. Nothing else is special. -/

/-- Why a command line cannot be cut into words. -/
inductive WordsError where
  /-- A quote is not closed. -/
  | unclosedQuote
  /-- The line ends after a backslash. -/
  | nothingEscaped
deriving DecidableEq, Repr

/-- The text of the error. -/
def WordsError.message : WordsError → String
  | unclosedQuote => "No closing quotation"
  | nothingEscaped => "No escaped character"

/-- What the next character of a command line belongs to. -/
inductive WordsMode where
  /-- Outside quotes. -/
  | plain
  /-- After a backslash outside quotes. -/
  | plainEscape
  /-- Between single quotes. -/
  | single
  /-- Between double quotes. -/
  | double
  /-- After a backslash between double quotes. -/
  | doubleEscape
deriving DecidableEq, Repr

/-- Does the character separate words? -/
def separatesWords (c : Char) : Bool := c = ' ' || c = '\t' || c = '\r' || c = '\n'

/-- The words of a command line, where `word` holds what is read of a word that has begun, last
character first. -/
def shellWordsFrom : WordsMode → (word : Option (List Char)) → List Char →
    Except WordsError (List (List Char))
  | .plain, none, [] => .ok []
  | .plain, some word, [] => .ok [word.reverse]
  | .plain, word, c :: rest =>
    if separatesWords c then
      match word with
      | none => shellWordsFrom .plain none rest
      | some word => (shellWordsFrom .plain none rest).map (word.reverse :: ·)
    else if c = '\x27' then shellWordsFrom .single (some (word.getD [])) rest
    else if c = '\x22' then shellWordsFrom .double (some (word.getD [])) rest
    else if c = '\x5c' then shellWordsFrom .plainEscape word rest
    else shellWordsFrom .plain (some (c :: word.getD [])) rest
  | .single, _, [] => .error .unclosedQuote
  | .single, word, c :: rest =>
    if c = '\x27' then shellWordsFrom .plain word rest
    else shellWordsFrom .single (some (c :: word.getD [])) rest
  | .double, _, [] => .error .unclosedQuote
  | .double, word, c :: rest =>
    if c = '\x22' then shellWordsFrom .plain word rest
    else if c = '\x5c' then shellWordsFrom .doubleEscape word rest
    else shellWordsFrom .double (some (c :: word.getD [])) rest
  | .plainEscape, _, [] => .error .nothingEscaped
  | .plainEscape, word, c :: rest => shellWordsFrom .plain (some (c :: word.getD [])) rest
  | .doubleEscape, _, [] => .error .nothingEscaped
  | .doubleEscape, word, c :: rest =>
    if c = '\x22' ∨ c = '\x5c' then shellWordsFrom .double (some (c :: word.getD [])) rest
    else shellWordsFrom .double (some (c :: '\x5c' :: word.getD [])) rest

/-- The words of a command line. -/
def shellWords (line : String) : Except WordsError (List String) :=
  (shellWordsFrom .plain none line.toList).map fun words => words.map String.ofList

end LiveCheck.Text
