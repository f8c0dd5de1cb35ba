/-!
# Hexadecimal digits

Escapes in quoted texts give code points in base sixteen. Where a digit is read it may
be of either case.

> `hexDigit?_digitChar`, `hexDigit?_toUpper`: a digit that was written is read back, in
> lower case and in upper case.
-/

namespace VoiceGateway.Text

/-- The digits of a number in lowercase hexadecimal. -/
def hexDigits (n : Nat) : List Char := Nat.toDigits 16 n

/-- The value of a hexadecimal digit of either case. -/
def hexDigit? (c : Char) : Option Nat :=
  if c.isDigit then some (c.toNat - 48)
  else if 'a' ≤ c ∧ c ≤ 'f' then some (c.toNat - 87)
  else if 'A' ≤ c ∧ c ≤ 'F' then some (c.toNat - 55)
  else none

theorem hexDigit?_digitChar {n : Nat} (h : n < 16) : hexDigit? n.digitChar = some n := by
  have hall : ∀ k < 16, hexDigit? (Nat.digitChar k) = some k := by decide
  exact hall n h

theorem hexDigit?_toUpper {n : Nat} (h : n < 16) : hexDigit? n.digitChar.toUpper = some n := by
  have hall : ∀ k < 16, hexDigit? (Nat.digitChar k).toUpper = some k := by decide
  exact hall n h

end VoiceGateway.Text
