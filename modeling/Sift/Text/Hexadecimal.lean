/-!
# Digits to base sixteen

How a code point is written in an escape, and what the digits of one stand for.  Digits past nine
are written in lower case and read in either; a digit that was written is read as what it was
(`hexValue?_digitChar`).
-/

set_option autoImplicit false
namespace Sift
namespace Text

/-- The digits of a number to base sixteen, in lower case. -/
def hexDigits (n : Nat) : List Char :=
  Nat.toDigits 16 n

/-- What a digit to base sixteen stands for. -/
def hexValue? (c : Char) : Option Nat :=
  if c.isDigit then some (c.toNat - '0'.toNat)
  else if 'a' ≤ c ∧ c ≤ 'f' then some (c.toNat - 'a'.toNat + 10)
  else if 'A' ≤ c ∧ c ≤ 'F' then some (c.toNat - 'A'.toNat + 10)
  else none

/-- A digit is read as what it was written for. -/
theorem hexValue?_digitChar : ∀ d < 16, hexValue? (Nat.digitChar d) = some d := by
  decide

end Text
end Sift
