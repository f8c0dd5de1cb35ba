import VoiceGateway.Config
import VoiceGateway.Trace

/-!
# Back-off between reconnects

After each failed attempt a shard waits longer: the delays grow by a factor from
an initial one up to a cap, and each is stretched by up to a quarter. How much
depends on shard and attempt, so shards that went down together do not come back
together.

The arithmetic is that of doubles, step by step; a factor that leads nowhere,
such as NaN, means the cap.
-/

namespace VoiceGateway

/-- A failed attempt to reconnect a shard. Attempts count from one. -/
structure ReconnectFailure where
  shard : UInt32
  attempt : UInt32
  maxAttempts : UInt32
deriving DecidableEq, Repr

namespace ReconnectFailure

/-- Whether the shard is given up. The attempt numbered exactly `maxAttempts` is
still followed by another one. -/
def isAbandoned (f : ReconnectFailure) : Bool := f.maxAttempts < f.attempt

def text (f : ReconnectFailure) : String :=
  "shard " ++ Decimal.text f.shard.toNat ++ " failed reconnect attempt " ++
    Decimal.text f.attempt.toNat ++ "/" ++ Decimal.text f.maxAttempts.toNat

def toJson (f : ReconnectFailure) : Json :=
  .object [("shard_id", .number f.shard.toNat), ("current_attempt", .number f.attempt.toNat),
    ("max_attempts", .number f.maxAttempts.toNat)]

end ReconnectFailure

/-- A schedule of delays. -/
structure Backoff where
  initialDelay : Duration
  /-- The cap, before the stretch. -/
  maxDelay : Duration
  factor : Float

namespace Backoff

/-- The schedule that the settings describe. -/
def ofSettings (r : ReconnectSettings) : Backoff :=
  ⟨r.initialDelay, r.maxDelay, r.backoffFactor⟩

/-- The schedule of the default settings. -/
def standard : Backoff := ofSettings {}

/-- Repeated squaring on top of `acc`; `fuel` bounds the binary digits of the
exponent. -/
def powerOnto (acc x : Float) : Nat → Nat → Float
  | 0, _ => acc
  | fuel + 1, n =>
    let acc' := if n % 2 = 1 then acc * x else acc
    if n / 2 = 0 then acc' else powerOnto acc' (x * x) fuel (n / 2)

/-- A double to a whole power of at most 31 binary digits. -/
def power (x : Float) (n : Nat) : Float := powerOnto 1.0 x 31 n

/-- The greatest exponent in use; higher ones are taken for it. -/
def maxExponent : Nat := 0x7fffffff

/-- The lesser of two doubles, and the other one if the first is NaN. -/
def lesser (x y : Float) : Float := if x.isNaN then y else if y < x then y else x

/-- The delay before a retry, retries counting from zero, without the stretch. -/
def baseDelay (b : Backoff) (retry : UInt32) : Duration :=
  let grown := b.initialDelay.seconds * power b.factor (min retry.toNat maxExponent)
  (Duration.ofSeconds? (lesser grown b.maxDelay.seconds)).getD b.maxDelay

/-- Mixes shard and attempt into 64 bits that show no pattern of either. -/
def mix (shard attempt : UInt32) : UInt64 :=
  let x := shard.toUInt64 <<< 32 ||| attempt.toUInt64
  let y := (x ^^^ x >>> 30) * 0xbf58476d1ce4e5b9
  let z := (y ^^^ y >>> 27) * 0x94d049bb133111eb
  z ^^^ z >>> 31

/-- The numerator of the stretch, out of `2 ^ 53`. -/
def jitterNumerator (shard attempt : UInt32) : UInt64 := mix shard attempt >>> 11

/-- The part of the greatest stretch that an attempt of a shard gets. -/
def jitter (shard attempt : UInt32) : Float :=
  (jitterNumerator shard attempt).toFloat / 9007199254740992.0

/-- The greatest stretch. -/
def maxStretch : Float := 0.25

/-- The delay after a failure, unless it is too long for a duration. -/
def delayAfter (b : Backoff) (f : ReconnectFailure) : Option Duration :=
  -- Attempts count from one, retries from zero.
  let retry := if f.attempt = 0 then 0 else f.attempt - 1
  (b.baseDelay retry).scale? (1.0 + maxStretch * jitter f.shard f.attempt)

end Backoff

end VoiceGateway
