import LiveCheck.Text.Ranges

namespace LiveCheck.Text

/-! ### Blank characters

Blank means: whitespace by category or by bidirectional class (a paragraph separator, a segment
separator or a space). This is the class that trims a line, separates its fields and ends it; it
holds the four ASCII information separators, which the property `White_Space` leaves out. -/

/-- The blank characters. -/
def blankRanges : Ranges :=
  [(0x9, 0xD), (0x1C, 0x20), (0x85, 0x85), (0xA0, 0xA0), (0x1680, 0x1680), (0x2000, 0x200A),
   (0x2028, 0x2029), (0x202F, 0x202F), (0x205F, 0x205F), (0x3000, 0x3000)]

/-- Is the character blank? -/
def isBlank (c : Char) : Bool := blankRanges.has c.toNat

/-- The text without its leading blanks. -/
def trimStart (s : List Char) : List Char := s.dropWhile isBlank

/-- The text without its trailing blanks. -/
def trimEnd (s : List Char) : List Char := (s.reverse.dropWhile isBlank).reverse

/-- The text without the blanks at both of its ends. -/
def trim (s : List Char) : List Char := trimEnd (trimStart s)

/-- Is there nothing in the text but blanks? -/
def allBlank (s : List Char) : Bool := s.all isBlank

/-- The string without the blanks at both of its ends. -/
def trimString (s : String) : String := String.ofList (trim s.toList)

/-- Is there nothing in the string but blanks? -/
def isBlankString (s : String) : Bool := allBlank s.toList

/-- A text of blanks alone is empty once trimmed at its start. -/
theorem trimStart_eq_nil_iff (s : List Char) : trimStart s = [] ↔ allBlank s = true := by
  induction s with
  | nil => simp [trimStart, allBlank]
  | cons c rest ih =>
    by_cases h : isBlank c = true
    · have skip : trimStart (c :: rest) = trimStart rest := by simp [trimStart, h]
      rw [skip, ih]
      simp [allBlank, h]
    · simp [trimStart, allBlank, h]

end LiveCheck.Text
