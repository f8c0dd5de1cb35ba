import VoiceGateway.Number.Binary64
import VoiceGateway.Text.Decimal

/-!
# Durations

A duration is a whole number of nanoseconds, less than 2⁶⁴ seconds in all. For
arithmetic with factors it is turned into seconds as a double and back; the way
back rounds to the nearest nanosecond, ties to even, and fails where the double
is no such number of seconds.
-/

namespace VoiceGateway

/-- A non-negative span of time, in nanoseconds. -/
structure Duration where
  nanos : Nat
  nanos_lt : nanos < 0x10000000000000000 * 1000000000
deriving DecidableEq, Repr

namespace Duration

/-- The duration of a number of nanoseconds, if it is not too long. -/
def ofNanos? (n : Nat) : Option Duration :=
  if h : n < 0x10000000000000000 * 1000000000 then some ⟨n, h⟩ else none

def ofSecs (s : UInt64) : Duration :=
  ⟨s.toNat * 1000000000, Nat.mul_lt_mul_of_pos_right s.toNat_lt (by decide)⟩

def ofMillis (ms : UInt64) : Duration :=
  ⟨ms.toNat * 1000000, by have := ms.toNat_lt; omega⟩

/-- The length in whole milliseconds, a started one counting in full. -/
def ceilMillis (d : Duration) : Nat := (d.nanos + 999999) / 1000000

/-- The length in seconds as a double: whole seconds and the rest are converted
one by one and added. -/
def seconds (d : Duration) : Float :=
  (d.nanos / 1000000000).toUInt64.toFloat +
    (d.nanos % 1000000000).toUInt64.toFloat / 1000000000.0

/-- The duration of a number of seconds: none for NaN, for anything below zero
and for what does not fit. -/
def ofSeconds? (x : Float) : Option Duration :=
  match Binary64.ofFloat x with
  | .nan => none
  | .infinite _ => none
  | .finite d =>
    if d.negative ∧ d.significand ≠ 0 then none
    else ofNanos? (d.timesRounded 1000000000)

/-- A duration stretched by a factor, if the result is a duration. -/
def scale? (d : Duration) (factor : Float) : Option Duration :=
  ofSeconds? (factor * d.seconds)

/-- The units of the printed form, largest first, with the number of decimal
places below each. -/
def units : List (Nat × Nat × String) :=
  [(1000000000, 9, "s"), (1000000, 6, "ms"), (1000, 3, "µs")]

/-- Drops the zeros at the end of a run of digits. -/
def dropZeros (ds : List Char) : List Char := (ds.reverse.dropWhile (· == '0')).reverse

/-- The length in the largest unit of which it holds at least one, with as many
decimal places as it takes. -/
def text (d : Duration) : String :=
  match units.find? fun (unit, _, _) => unit ≤ d.nanos with
  | none => Decimal.text d.nanos ++ "ns"
  | some (unit, places, name) =>
    let fraction := dropZeros (Decimal.padded places (d.nanos % unit))
    String.ofList
      (Decimal.digits (d.nanos / unit) ++
        (if fraction.isEmpty then [] else '.' :: fraction) ++ name.toList)

end Duration

end VoiceGateway
