import LiveCheck.Decimal.Shortest
import LiveCheck.Text.Quoted

namespace LiveCheck

/-! ### Values that a setting is given

Settings arrive as text from the environment, or as values of any shape from a caller. -/

/-- A value given for a setting. -/
inductive Value where
  | null
  | bool (b : Bool)
  | int (n : Int)
  | float (x : Float)
  | text (s : String)
  | list (xs : List Value)
  | record (fields : List (String × Value))
  /-- Any other object: the name of its kind, how it is shown, what it is as a text, and what it is
  made of, as texts; `none` if it is neither empty nor made of parts. -/
  | object (kind shown asText : String) (parts : Option (List String))
deriving Inhabited

namespace Value

/-- A logical value as a word. -/
def boolWord (b : Bool) : String := if b then "True" else "False"

mutual

/-- A value as it is shown inside another value: a text stands between quotes. -/
def shown : Value → String
  | null => "None"
  | bool b => boolWord b
  | int n => Text.intString n
  | float x => Decimal.floatString x
  | text s => Text.quoteString s
  | list xs => "[" ++ ", ".intercalate (shownAll xs) ++ "]"
  | record fields => "\x7b" ++ ", ".intercalate (shownFields fields) ++ "\x7d"
  | object _ shown _ _ => shown

/-- The values of a list as they are shown. -/
def shownAll : List Value → List String
  | [] => []
  | v :: rest => shown v :: shownAll rest

/-- The fields of a record as they are shown. -/
def shownFields : List (String × Value) → List String
  | [] => []
  | (name, v) :: rest => (Text.quoteString name ++ ": " ++ shown v) :: shownFields rest

end

/-- A value as a text of its own. -/
def asText : Value → String
  | text s => s
  | object _ _ asText _ => asText
  | v => shown v

/-- The name of the kind of a value. -/
def kindName : Value → String
  | null => "NoneType"
  | bool _ => "bool"
  | int _ => "int"
  | float _ => "float"
  | text _ => "str"
  | list _ => "list"
  | record _ => "dict"
  | object kind _ _ _ => kind

end Value

end LiveCheck
