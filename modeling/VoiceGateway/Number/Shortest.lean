import VoiceGateway.Number.Binary64
import VoiceGateway.Text.Decimal

/-!
# The shortest decimal of a double

A double is printed with the fewest digits that read back as the same double,
and among those of equal length with the one nearest to it. For each number of
digits there are only two candidates, the neighbours of the exact value on the
grid of that many digits; the first grid with a candidate inside the rounding
interval of the double wins.

Two layouts of these digits are in use: positional, and positional for
exponents of moderate size with a power of ten otherwise.
-/

namespace VoiceGateway

/-- The number `digits · 10 ^ exponent`. -/
structure Scaled where
  digits : Nat
  exponent : Int
deriving DecidableEq, Repr

namespace Dyadic

/-- How many digits the value has before its point; zero or less counts the
zeros that follow the point. -/
def magnitude (d : Dyadic) : Int :=
  let shifted := (d.significand <<< d.exponent.toNat) * Nat.pow 10 400 / (1 <<< (-d.exponent).toNat)
  ((Decimal.digits shifted).length : Int) - 400

/-- The value in units of which `10 ^ k` and a quarter of the spacing of doubles
are both whole numbers. -/
def valueAt (d : Dyadic) (k : Int) : Nat :=
  ((4 * d.significand) <<< d.exponent.toNat) * Nat.pow 10 (-k).toNat

/-- `10 ^ k` in the units of `valueAt`. -/
def stepAt (d : Dyadic) (k : Int) : Nat :=
  (4 <<< (-d.exponent).toNat) * Nat.pow 10 k.toNat

/-- A quarter of the spacing of doubles above the value, in the units of `valueAt`. -/
def quarterAt (d : Dyadic) (k : Int) : Nat :=
  (1 <<< d.exponent.toNat) * Nat.pow 10 (-k).toNat

/-- Whether `candidate · 10 ^ k` reads back as this double. -/
def readsBack (d : Dyadic) (k : Int) (candidate : Nat) : Bool :=
  let x := candidate * d.stepAt k
  let v := d.valueAt k
  -- The interval reaches half way to the next double on either side.
  let low := v - (if d.narrowBelow then 1 else 2) * d.quarterAt k
  let high := v + 2 * d.quarterAt k
  if d.significand % 2 = 0 then low ≤ x && x ≤ high
  else low < x && x < high

/-- The best number on the grid `10 ^ k`, if one reads back. -/
def onGrid (d : Dyadic) (tie : Tie) (k : Int) : Option Nat :=
  let below := d.valueAt k / d.stepAt k
  match d.readsBack k below, d.readsBack k (below + 1) with
  -- Both neighbours will do, so the nearer one is taken.
  | true, true => some (roundDiv tie (d.valueAt k) (d.stepAt k))
  | true, false => some below
  | false, true => some (below + 1)
  | false, false => none

/-- Tries the grids of `count` digits and more, at most `fuel` of them. -/
def searchGrids (d : Dyadic) (tie : Tie) (count : Nat) : Nat → Scaled
  | 0 => ⟨d.significand, d.exponent⟩
  | fuel + 1 =>
    let k := d.magnitude - (count : Int)
    match d.onGrid tie k with
    | some n => ⟨n, k⟩
    | none => searchGrids d tie (count + 1) fuel

end Dyadic

/-- Moves the zeros at the end of the digits into the exponent. -/
def Scaled.stripZeros (fuel : Nat) (s : Scaled) : Scaled :=
  match fuel with
  | 0 => s
  | fuel + 1 =>
    if s.digits % 10 = 0 ∧ s.digits ≠ 0 then
      Scaled.stripZeros fuel ⟨s.digits / 10, s.exponent + 1⟩
    else s

/-- The fewest digits that read back as a non-zero double; seventeen always do. -/
def Dyadic.shortest (d : Dyadic) (tie : Tie) : Scaled :=
  (d.searchGrids tie 1 17).stripZeros 17

/-- Positional notation with at least one digit on either side of the point. -/
def Scaled.positional (s : Scaled) : List Char :=
  let ds := Decimal.digits s.digits
  let point : Int := ds.length + s.exponent
  if 0 ≤ s.exponent then ds ++ List.replicate s.exponent.toNat '0' ++ ['.', '0']
  else if 0 < point then ds.take point.toNat ++ '.' :: ds.drop point.toNat
  else '0' :: '.' :: List.replicate (-point).toNat '0' ++ ds

/-- One digit, a point if more follow, and a signed power of ten. -/
def Scaled.scientific (s : Scaled) : List Char :=
  let ds := Decimal.digits s.digits
  let power : Int := ds.length + s.exponent - 1
  let mantissa :=
    match ds with
    | [] => []
    | [d] => [d]
    | d :: rest => d :: '.' :: rest
  mantissa ++ 'e' :: (if power < 0 then '-' else '+') :: Decimal.digits power.natAbs

/-- The choices in which two printed forms of doubles differ. -/
structure FloatStyle where
  tie : Tie
  /-- Least and greatest power of ten of the leading digit in positional
  notation; without a range all numbers are positional. -/
  positionalRange : Option (Int × Int)
  nan : String
deriving DecidableEq, Repr

/-- The text of a double in the given style. -/
def FloatStyle.text (style : FloatStyle) (x : Float) : String :=
  match Binary64.ofFloat x with
  | .nan => style.nan
  | .infinite negative => if negative then "-inf" else "inf"
  | .finite d =>
    let sign := if d.negative then ['-'] else []
    if d.significand = 0 then String.ofList (sign ++ ['0', '.', '0'])
    else
      let s := d.shortest style.tie
      let power : Int := (Decimal.digits s.digits).length + s.exponent - 1
      let positional :=
        match style.positionalRange with
        | none => true
        | some (lo, hi) => lo ≤ power && power ≤ hi
      String.ofList (sign ++ if positional then s.positional else s.scientific)

end VoiceGateway
