/-!
# Doubles as exact numbers

Every finite double is an integer significand times a power of two. What has
to be exact about a double, its decimal text or its distance from a whole
number of nanoseconds, is computed on that pair with natural numbers, so no
rounding takes place except where a rule asks for it.

> `roundDiv_eq_of_dvd`: a quotient that comes out even is not rounded.
-/

namespace VoiceGateway

/-- The value `± significand · 2 ^ exponent` of a finite double. `narrowBelow`
says that the next smaller double is only half as far away as the next larger
one, which is so where the exponent has just grown. -/
structure Dyadic where
  negative : Bool
  significand : Nat
  exponent : Int
  narrowBelow : Bool
deriving DecidableEq, Repr

/-- What a double stands for. -/
inductive Binary64 where
  | finite (value : Dyadic)
  | infinite (negative : Bool)
  | nan
deriving DecidableEq, Repr

namespace Binary64

/-- Takes a double apart: one sign bit, eleven of exponent, fifty-two of
fraction. The lowest exponent stands for the numbers without a leading one. -/
def ofFloat (x : Float) : Binary64 :=
  let bits := x.toBits.toNat
  let negative := decide (0x8000000000000000 ≤ bits)
  let exponent : Nat := (bits >>> 52) % 2048
  let fraction : Nat := bits % (1 <<< 52)
  if exponent = 2047 then
    if fraction = 0 then .infinite negative else .nan
  else if exponent = 0 then
    -- No leading one: zero, and the numbers next to it.
    .finite ⟨negative, fraction, -1074, false⟩
  else
    .finite ⟨negative, (1 <<< 52) + fraction, (exponent : Int) - 1075,
      fraction = 0 && 1 < exponent⟩

end Binary64

/-- Which way a value exactly between two neighbours goes. -/
inductive Tie where
  | up
  | toEven
deriving DecidableEq, Repr

/-- The whole number nearest to `num / den`. -/
def roundDiv (tie : Tie) (num den : Nat) : Nat :=
  let low := num / den
  let rest := num % den
  if 2 * rest < den then low
  else if den < 2 * rest then low + 1
  else
    match tie with
    | .up => low + 1
    | .toEven => if low % 2 = 0 then low else low + 1

theorem roundDiv_eq_of_dvd {tie : Tie} {num den : Nat} (pos : 0 < den) (h : den ∣ num) :
    roundDiv tie num den = num / den := by
  unfold roundDiv
  simp [Nat.mod_eq_zero_of_dvd h, pos]

/-- The number of `unit`ths of one in a non-negative dyadic, to the nearest,
ties to even. -/
def Dyadic.timesRounded (d : Dyadic) (unit : Nat) : Nat :=
  roundDiv .toEven ((d.significand * unit) <<< d.exponent.toNat) (1 <<< (-d.exponent).toNat)

/-- The double nearest to `digits · 10 ^ exponent`. Powers far outside the range
of doubles are answered without being computed. -/
def floatOfDecimal (digits : Nat) (exponent : Int) : Float :=
  if digits = 0 then 0.0
  else
    let size : Int := (Nat.toDigits 10 digits).length
    if 400 < exponent + size then 1.0 / 0.0
    else if exponent + size < -400 then 0.0
    else if exponent < 0 then Float.ofScientific digits true (-exponent).toNat
    else Float.ofScientific digits false exponent.toNat

end VoiceGateway
