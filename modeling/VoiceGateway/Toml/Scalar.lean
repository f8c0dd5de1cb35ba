import VoiceGateway.Number.Binary64
import VoiceGateway.Toml.Text
import VoiceGateway.Toml.Value

/-!
# TOML numbers, dates and times

Integers in base ten, sixteen, eight and two with underscores between digits,
within the range of 64 bits with sign; doubles with a fraction, a power of ten
or both, and the words for infinity and NaN; dates and times, of which only the
form is looked at.
-/

namespace VoiceGateway.Toml

/-- Digits that follow a first one, where an underscore may stand between two. -/
def moreDigits (isDigit : Char → Bool) : List Char → List Char × List Char
  | [] => ([], [])
  | '_' :: c :: cs =>
    if isDigit c then
      let (ds, rest) := moreDigits isDigit cs
      (c :: ds, rest)
    else ([], '_' :: c :: cs)
  | c :: cs =>
    if isDigit c then
      let (ds, rest) := moreDigits isDigit cs
      (c :: ds, rest)
    else ([], c :: cs)

/-- At least one digit. -/
def readDigits (isDigit : Char → Bool) : List Char → Option (List Char × List Char)
  | c :: cs =>
    if isDigit c then
      let (ds, rest) := moreDigits isDigit cs
      some (c :: ds, rest)
    else none
  | [] => none

/-- The digits of a decimal integer: a zero stands alone. -/
def readWhole : List Char → Option (List Char × List Char)
  | '0' :: cs => some (['0'], cs)
  | cs => readDigits Char.isDigit cs

/-- One optional sign; true for minus. -/
def readSign : List Char → Bool × List Char
  | '+' :: cs => (false, cs)
  | '-' :: cs => (true, cs)
  | cs => (false, cs)

/-- The value of digits in a base. -/
def valueIn (base : Nat) (ds : List Char) : Nat :=
  ds.foldl (fun acc c => acc * base + (Text.hexDigit? c).getD 0) 0

/-- An integer of 64 bits with sign. -/
def integer? (negative : Bool) (size : Nat) : Option Value :=
  if negative then
    if size ≤ 0x8000000000000000 then some (.integer (-(size : Int))) else none
  else if size < 0x8000000000000000 then some (.integer size) else none

/-- Whether a character is a digit in a base. -/
def isDigitIn (base : Nat) (c : Char) : Bool :=
  match Text.hexDigit? c with
  | none => false
  | some d => d < base

/-- The base that a mark after a zero announces. -/
def baseOf? : Char → Option Nat
  | 'x' => some 16
  | 'o' => some 8
  | 'b' => some 2
  | _ => none

/-- The fraction of a double: a point and digits. There is none if no point
follows; a point without digits is no number. -/
def readFraction : List Char → Option (Option (List Char) × List Char)
  | '.' :: cs => (readDigits Char.isDigit cs).map fun (ds, rest) => (some ds, rest)
  | cs => some (none, cs)

/-- The power of ten of a double, likewise. -/
def readPower : List Char → Option (Option Int × List Char)
  | c :: cs =>
    if c = 'e' ∨ c = 'E' then
      let (negative, digits) := readSign cs
      (readDigits Char.isDigit digits).map fun (ds, rest) =>
        let n := (Decimal.value ds : Int)
        (some (if negative then -n else n), rest)
    else some (none, c :: cs)
  | [] => some (none, [])

/-- The double of a sign, digits, digits after the point and a power of ten. Too
large a number is none, unless it is negative: then it is minus infinity. -/
def float? (negative : Bool) (whole fraction : List Char) (power : Int) : Option Value :=
  let x := floatOfDecimal (Decimal.value (whole ++ fraction)) (power - fraction.length)
  if negative then some (.float (-x))
  else if x == 1.0 / 0.0 then none
  else some (.float x)

/-- Reads a number in base ten. -/
def readDecimal (negative : Bool) (cs : List Char) : Option (Value × List Char) := do
  let (whole, afterWhole) ← readWhole cs
  let (fraction, afterFraction) ← readFraction afterWhole
  let (power, rest) ← readPower afterFraction
  let v ←
    if fraction.isNone ∧ power.isNone then integer? negative (Decimal.value whole)
    else float? negative whole (fraction.getD []) (power.getD 0)
  return (v, rest)

/-- Reads a number after its sign. -/
def readUnsigned (negative : Bool) : List Char → Option (Value × List Char)
  | 'i' :: 'n' :: 'f' :: cs =>
    some (.float (if negative then -(1.0 / 0.0) else 1.0 / 0.0), cs)
  | 'n' :: 'a' :: 'n' :: cs => some (.float (0.0 / 0.0), cs)
  | cs => readDecimal negative cs

/-- Reads a number of any form. -/
def readNumber : List Char → Option (Value × List Char)
  | '0' :: mark :: cs =>
    match baseOf? mark with
    | some base =>
      match readDigits (isDigitIn base) cs with
      | none => none
      | some (ds, rest) => (integer? false (valueIn base ds)).map fun v => (v, rest)
    | none => readUnsigned false ('0' :: mark :: cs)
  | cs =>
    let (negative, rest) := readSign cs
    readUnsigned negative rest

/-! ## Dates and times -/

/-- Reads a number of exactly so many digits. -/
def readFixed (width : Nat) (cs : List Char) : Option (Nat × List Char) :=
  let ds := cs.take width
  if ds.length = width ∧ ds.all Char.isDigit then some (Decimal.value ds, cs.drop width)
  else none

/-- Reads a number of two digits within bounds. -/
def readTwo (low high : Nat) (cs : List Char) : Option (Nat × List Char) :=
  match readFixed 2 cs with
  | none => none
  | some (n, rest) => if low ≤ n ∧ n ≤ high then some (n, rest) else none

/-- Reads one given character. -/
def readChar (c : Char) : List Char → Option (List Char)
  | d :: cs => if d = c then some cs else none
  | [] => none

/-- The number of days in a month. -/
def daysInMonth (year month : Nat) : Nat :=
  if month = 2 then
    if year % 4 = 0 ∧ (year % 100 ≠ 0 ∨ year % 400 = 0) then 29 else 28
  else if month = 4 ∨ month = 6 ∨ month = 9 ∨ month = 11 then 30
  else 31

/-- Reads a date and returns what follows. -/
def readDate (cs : List Char) : Option (List Char) := do
  let (year, cs) ← readFixed 4 cs
  let cs ← readChar '-' cs
  let (month, cs) ← readTwo 1 12 cs
  let cs ← readChar '-' cs
  let (_, cs) ← readTwo 1 (daysInMonth year month) cs
  return cs

/-- Reads the fraction of a second, if there is one. -/
def readSecondFraction : List Char → Option (List Char)
  | '.' :: cs => if (cs.takeWhile Char.isDigit).isEmpty then none else some (cs.dropWhile Char.isDigit)
  | cs => some cs

/-- Reads a time of day and returns what follows. -/
def readTime (cs : List Char) : Option (List Char) := do
  let (_, cs) ← readTwo 0 23 cs
  let cs ← readChar ':' cs
  let (_, cs) ← readTwo 0 59 cs
  let cs ← readChar ':' cs
  let (_, cs) ← readTwo 0 60 cs
  readSecondFraction cs

/-- Reads the distance from universal time, if there is one. -/
def readOffset : List Char → Option (List Char)
  | [] => some []
  | c :: cs =>
    if c = 'Z' ∨ c = 'z' then some cs
    else if c = '+' ∨ c = '-' then do
      let (_, cs) ← readTwo 0 23 cs
      let cs ← readChar ':' cs
      let (_, cs) ← readTwo 0 59 cs
      return cs
    else some (c :: cs)

/-- Reads the time that may follow a date. -/
def readTimeOfDate : List Char → Option (List Char)
  | c :: cs =>
    if c = 'T' ∨ c = 't' ∨ c = ' ' then
      -- A blank may just as well end the date.
      match readTime cs with
      | some rest => readOffset rest
      | none => some (c :: cs)
    else some (c :: cs)
  | [] => some []

/-- Reads a date, a time or both. -/
def readMoment (cs : List Char) : Option (Value × List Char) :=
  let rest :=
    match readDate cs with
    | some rest => readTimeOfDate rest
    | none => readTime cs
  rest.map fun r => (.moment (String.ofList (cs.take (cs.length - r.length))), r)

end VoiceGateway.Toml
