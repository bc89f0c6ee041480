import Mathlib.Algebra.Group.Nat.Defs
import Mathlib.Data.List.Basic
import Mathlib.Data.List.Induction
import Mathlib.Tactic.Common
import LiveCheck.Attribution

/-!
# Numbers that are written and read

A number is written with the ten digits of ASCII and read with the digits of every script.
`readNumber_natChars` says that a number is read as it was written, if it is not too long, and
`length_natChars_le` that a number which was read, whatever its digits were, is not longer when it
is written.
-/

namespace LiveCheck

namespace Text

/-- A digit of ASCII stands for its distance from zero. -/
theorem digitValue?_of_isDigit {c : Char} (h : c.isDigit = true) :
    digitValue? c = some (c.toNat - '0'.toNat) := by
  have bounds : 48 ≤ c.toNat ∧ c.toNat ≤ 57 := by
    simp only [Char.isDigit, Bool.and_eq_true, decide_eq_true_eq] at h
    exact ⟨h.1, h.2⟩
  have found : digitRanges.find? (fun range => range.1 ≤ c.toNat && c.toNat ≤ range.2) =
      some (0x30, 0x39) := by
    unfold digitRanges
    rw [List.find?_cons_of_pos (by simpa using bounds)]
  unfold digitValue?
  rw [found]
  change some ((c.toNat - 48) % 10) = some (c.toNat - 48)
  rw [Nat.mod_eq_of_lt (by omega)]

/-- The characters of a number are digits. -/
theorem isDigit_of_mem_natChars {n : Nat} {c : Char} (h : c ∈ natChars n) :
    isDigit c = true := by
  have ascii : c.isDigit = true := Nat.isDigit_of_mem_toDigits (by decide) (by decide) h
  rw [isDigit_eq_isSome, digitValue?_of_isDigit ascii]
  rfl

/-- The digits that a number is written with stand for it. -/
theorem numeralValue_natChars (n : Nat) : numeralValue (natChars n) = n := by
  have same : numeralValue (natChars n) = Nat.ofDigitChars 10 (natChars n) 0 := by
    unfold numeralValue Nat.ofDigitChars
    refine List.foldl_ext _ _ 0 fun value c hc => ?_
    have ascii : c.isDigit = true := Nat.isDigit_of_mem_toDigits (by decide) (by decide) hc
    rw [digitValue?_of_isDigit ascii]
    rfl
  rw [same]
  exact Nat.ofDigitChars_ten_toDigits

/-- A numeral is less than the power of ten that has one more digit. -/
theorem numeralValue_lt (digits : List Char) : numeralValue digits < 10 ^ digits.length := by
  induction digits using List.reverseRecOn with
  | nil => decide
  | append_singleton rest c ih =>
    have last : (digitValue? c).getD 0 < 10 := by
      cases h : digitValue? c with
      | none => decide
      | some n => exact digitValue?_lt h
    have split : numeralValue (rest ++ [c]) = 10 * numeralValue rest + (digitValue? c).getD 0 :=
      List.foldl_append
    rw [split, List.length_append, List.length_singleton, Nat.pow_succ]
    omega

/-- A number is written with at least one digit. -/
theorem natChars_ne_nil (n : Nat) : natChars n ≠ [] := Nat.toDigits_ne_nil

/-- The number that a numeral stands for is not longer than the numeral. -/
theorem length_natChars_le {digits : List Char} {k : Nat} (hk : 0 < k) (h : digits.length ≤ k) :
    (natChars (numeralValue digits)).length ≤ k := by
  refine (Nat.length_toDigits_le_iff (by decide) hk).2 ?_
  exact Nat.lt_of_lt_of_le (numeralValue_lt digits) (Nat.pow_le_pow_right (by decide) h)

end Text

namespace Attribution

/-- A number is read as it was written, if it is not too long. -/
theorem readNumber_natChars {n : Nat} (h : (Text.natChars n).length ≤ Text.maxDigits) :
    readNumber (Text.natChars n) = .ok n := by
  unfold readNumber
  rw [if_neg (Nat.not_lt.2 h), Text.numeralValue_natChars]

/-- A number is read if and only if it is not too long. -/
theorem readNumber_eq_ok_iff {digits : List Char} {n : Int} :
    readNumber digits = .ok n ↔ digits.length ≤ Text.maxDigits ∧ n = Text.numeralValue digits := by
  unfold readNumber
  split
  · next long =>
    constructor
    · rintro ⟨⟩
    · rintro ⟨short, -⟩
      omega
  · next short =>
    constructor
    · rintro ⟨⟩
      exact ⟨Nat.not_lt.1 short, rfl⟩
    · rintro ⟨-, rfl⟩
      rfl

end Attribution

end LiveCheck
