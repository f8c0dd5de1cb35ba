import VoiceGateway.Text.Blank
import VoiceGateway.Text.Decimal

/-!
# Snowflakes

The 64-bit ids by which a gateway names guilds, channels and users. An id is
shown as a decimal text and read from one: blanks around it and one leading
plus sign are allowed, and a text that is no id is refused for one of three
causes.

Reading goes through the digits from left to right. A character that is no
digit is refused when it is met, and a number too large when the digit that
makes it so is met, so of two faults in one text the leftmost is reported.
-/

namespace VoiceGateway

/-- The id of a guild, a channel or a user. -/
structure Snowflake where
  raw : UInt64
deriving DecidableEq, Repr, Inhabited

namespace Snowflake

/-- Why a text is not an id. -/
inductive ReadError where
  | empty
  | invalidDigit
  | tooLarge
deriving DecidableEq, Repr

/-- The wording of each cause. -/
def ReadError.message : ReadError → String
  | .empty => "cannot parse integer from empty string"
  | .invalidDigit => "invalid digit found in string"
  | .tooLarge => "number too large to fit in target type"

/-- Continues a number below `2 ^ 64` by further digits. -/
def readDigits (acc : Nat) : List Char → Except ReadError Nat
  | [] => .ok acc
  | c :: cs =>
    match Decimal.digit? c with
    | none => .error .invalidDigit
    | some d =>
      if acc * 10 + d < 0x10000000000000000 then readDigits (acc * 10 + d) cs else .error .tooLarge

/-- Drops one plus sign, provided that something follows it. -/
def dropPlus : List Char → List Char
  | '+' :: c :: cs => c :: cs
  | cs => cs

/-- Reads a number below `2 ^ 64`: one optional plus sign and at least one digit. -/
def readNumber : List Char → Except ReadError Nat
  | [] => .error .empty
  | cs => readDigits 0 (dropPlus cs)

/-- Reads an id from a text, blanks at its ends aside. -/
def ofText (s : String) : Except ReadError Snowflake :=
  (readNumber (Text.trim s.toList)).map fun n => ⟨n.toUInt64⟩

/-- The decimal text of an id. -/
def text (id : Snowflake) : String := Decimal.text id.raw.toNat

end Snowflake

end VoiceGateway
