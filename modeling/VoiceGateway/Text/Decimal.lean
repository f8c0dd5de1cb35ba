/-!
# Decimal digits

A natural number in base ten, written most significant digit first and read
back one digit at a time. Everything that prints or reads a count, an id or a
numeral goes through here.
-/

namespace VoiceGateway.Decimal

/-- The number an ASCII digit stands for. -/
def digit? (c : Char) : Option Nat :=
  if c.isDigit then some (c.toNat - 48) else none

/-- The digits of `n`, with no leading zero other than the one of zero itself. -/
def digits (n : Nat) : List Char := Nat.toDigits 10 n

/-- The digits of `n` as text. -/
def text (n : Nat) : String := String.ofList (digits n)

/-- Reads a run of digits as one number; characters that are no digit count as zero. -/
def value (cs : List Char) : Nat :=
  cs.foldl (fun acc c => acc * 10 + (digit? c).getD 0) 0

/-- The digits of `n`, filled up with zeros on the left to at least `width` of them. -/
def padded (width n : Nat) : List Char :=
  List.replicate (width - (digits n).length) '0' ++ digits n

end VoiceGateway.Decimal
