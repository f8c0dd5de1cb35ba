import VoiceGateway.Json.Token
import VoiceGateway.Number.Binary64

/-!
# The value of a JSON number

An integer that fits into 64 bits is kept as one: unsigned if it has no sign,
signed if it has one. All other numbers become doubles: fractions, powers of
ten, minus zero, and integers beyond 64 bits. Such a double is made from the
leading digits that fit into 64 bits and one or more factors that are powers of
ten; a number beyond the range of doubles is a fault.
-/

namespace VoiceGateway.Json

/-- The value of a number. -/
inductive Number where
  | unsigned (n : Nat)
  | negative (i : Int)
  | float (x : Float)

/-- The leading digits that fit into 64 bits on top of `acc`, and the others. -/
def leadingDigits (acc : Nat) : List Char → Nat × List Char
  | [] => (acc, [])
  | c :: cs =>
    let next := acc * 10 + (Decimal.digit? c).getD 0
    if next < 0x10000000000000000 then leadingDigits next cs else (acc, c :: cs)

/-- Scales a double by a power of ten, at most 308 at a time; there is no
result beyond the range of doubles. -/
def scaleByTen (x : Float) (power : Int) : Nat → Option Float
  | 0 => some x
  | fuel + 1 =>
    if power.natAbs ≤ 308 then
      let factor := Float.ofScientific 1 false power.natAbs
      if 0 ≤ power then
        let y := x * factor
        if y == 1.0 / 0.0 then none else some y
      else some (x / factor)
    else if x == 0.0 then some x
    else if 0 ≤ power then none
    else scaleByTen (x / Float.ofScientific 1 false 308) (power + 308) fuel

/-- The largest power of ten that is counted exactly. -/
def maxPower : Nat := 0x7fffffff

/-- The size of a number that is no 64-bit integer. -/
def Numeral.magnitude? (n : Numeral) : Option Float :=
  let (whole, wholeRest) := leadingDigits 0 n.whole
  let (digits, fractionRest) := leadingDigits whole (n.fraction.getD [])
  -- A digit dropped before the point raises the power, one kept behind it lowers it.
  let point : Int :=
    (wholeRest.length : Int) - (((n.fraction.getD []).length : Int) - fractionRest.length)
  match n.power with
  | none => scaleByTen digits.toUInt64.toFloat point 4
  | some (negative, ds) =>
    let power := Decimal.value ds
    -- A power that is not counted exactly decides by itself, except for zero.
    if maxPower < power then
      if digits ≠ 0 ∧ negative = false then none else some 0.0
    else
      scaleByTen digits.toUInt64.toFloat (point + if negative then -(power : Int) else power) 4

/-- The value of a number, unless it is beyond the range of doubles. -/
def Numeral.value (n : Numeral) : Except Fault Number :=
  let whole := Decimal.value n.whole
  let fits :=
    if n.negative then 0 < whole && whole ≤ 0x8000000000000000
    else whole < 0x10000000000000000
  if n.fraction.isNone && n.power.isNone && fits then
    .ok (if n.negative then .negative (-(whole : Int)) else .unsigned whole)
  else
    match n.magnitude? with
    | none => .error .malformed
    | some x => .ok (.float (if n.negative then -x else x))

end VoiceGateway.Json
