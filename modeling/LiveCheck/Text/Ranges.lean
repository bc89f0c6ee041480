namespace LiveCheck.Text

/-! ### Character classes given by ranges

A class of characters that a standard fixes by enumeration is a list of inclusive ranges of code
points. Membership is decided by walking the list, so every fact about one character of a class is
settled by evaluation. -/

/-- Inclusive ranges of code points, in increasing order. -/
abbrev Ranges := List (Nat × Nat)

/-- Is the code point in one of the ranges? -/
def Ranges.has (table : Ranges) (code : Nat) : Bool :=
  table.any fun range => range.1 ≤ code && code ≤ range.2

end LiveCheck.Text
