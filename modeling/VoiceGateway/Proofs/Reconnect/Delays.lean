import VoiceGateway.Reconnect.Backoff
import VoiceGateway.Proofs.Duration

/-!
# Delays between reconnects

Whatever factor the settings give, the delay before a retry is at most the cap, but for the
rounding of the cap to a double, and stretching it by a quarter does not take it out of the
range of durations. The factor matters only as far as the growth is a number from zero to
the cap: what is greater is cut, and what is no number or is below zero makes room for the
cap.

> `lesser_spec`: what comes of cutting a double at a cap.
> `nanos_baseDelay_le`: the bound of the delay before the stretch.
> `delay_exists`: for every failure there is a delay.
-/

namespace VoiceGateway

open Float.Model Float.Model.UnpackedFloat Binary64

/-- Every number of milliseconds is below this power of two in seconds. -/
theorem Duration.nanos_ofMillis_le (ms : UInt64) : (ofMillis ms).nanos ≤ 2 ^ 55 * 1000000000 := by
  have h := ms.toNat_lt
  show ms.toNat * 1000000 ≤ _
  omega

namespace Backoff

variable {x y : Float} {k : Nat} {n : Nat}

/-! ## The cap -/

theorem isNaN_iff (x : Float) : x.isNaN = true ↔ parts x = .notANumber :=
  UnpackedFloat.isNaN_iff

/-- A double is no number, is not below zero, or is no duration. -/
theorem nonNegative_or_none (x : Float) :
    NonNegative (parts x) ∨ Duration.ofSeconds? x = none := by
  cases h : parts x with
  | notANumber => exact Or.inl .nan
  | infinity s =>
    right
    exact Duration.ofSeconds?_of_infinite h
  | zero s => exact Or.inl (.zero s)
  | finite s m e pos =>
    cases s with
    | positive => exact Or.inl .finite
    | negative => exact Or.inr (Duration.ofSeconds?_of_negative h)

/-- What comes of cutting a double at a cap: no duration, or a number up to the cap. -/
theorem lesser_spec (x : Float) {k : Int} (hy : UpTo k (parts y)) :
    Duration.ofSeconds? (lesser x y) = none ∨ UpTo k (parts (lesser x y)) := by
  unfold lesser
  split
  · exact Or.inr hy
  · next number =>
    split
    · exact Or.inr hy
    · next h =>
      rcases nonNegative_or_none x with hx | hnone
      · exact Or.inr (upTo_of_not_lt hy hx (mt (isNaN_iff x).mpr number) h)
      · exact Or.inl hnone

/-- The delay before the stretch is at most the cap, as far as a double tells it. -/
theorem nanos_baseDelay_le (b : Backoff) (retry : UInt32)
    (hcap : b.maxDelay.nanos ≤ 2 ^ k * 1000000000) (pos : 1 ≤ k) (small : k < 63) :
    (b.baseDelay retry).nanos ≤ 2 ^ (k + 1) * 1000000000 := by
  have hseconds := b.maxDelay.upTo_seconds hcap pos (by omega)
  unfold baseDelay
  dsimp only
  rcases lesser_spec (b.initialDelay.seconds * power b.factor (min retry.toNat maxExponent))
    hseconds with hnone | hle
  · rw [hnone]
    refine Nat.le_trans hcap (Nat.mul_le_mul_right _ ?_)
    exact Nat.pow_le_pow_right (by decide) (Nat.le_succ k)
  · obtain ⟨d, hd, hnanos⟩ := Duration.ofSeconds?_of_upTo (k := k + 1) hle (by omega)
    rw [hd]
    exact hnanos

/-! ## The stretch -/

/-- The numerator of the stretch has all but the eleven lowest bits of what is mixed. -/
theorem toNat_jitterNumerator (shard attempt : UInt32) :
    (jitterNumerator shard attempt).toNat = (mix shard attempt).toNat / 2 ^ 11 := by
  show (mix shard attempt >>> 11).toNat = _
  rw [UInt64.toNat_shiftRight, Nat.shiftRight_eq_div_pow]
  rfl

/-- The numerator of the stretch is less than its denominator. -/
theorem jitterNumerator_lt (shard attempt : UInt32) :
    (jitterNumerator shard attempt).toNat < 2 ^ 53 := by
  have h := (mix shard attempt).toNat_lt
  rw [toNat_jitterNumerator]
  omega

/-- The parts of the denominator of the stretch. -/
theorem parts_denominator :
    ∃ pos, parts 9007199254740992.0 = .finite .positive (2 ^ 52) 1 pos := ⟨by decide, rfl⟩

theorem upTo_jitter (shard attempt : UInt32) : UpTo 0 (parts (jitter shard attempt)) := by
  obtain ⟨pos, hdenominator⟩ := parts_denominator
  have hnumerator := upTo_toFloat (Nat.le_of_lt (jitterNumerator_lt shard attempt)) (by omega)
  exact upTo_div hnumerator hdenominator (⟨by decide, by decide⟩ : AtLeast 53 (2 ^ 52) 1)
    (by omega) (by omega)

theorem upTo_one : UpTo 0 (parts 1.0) :=
  .finite (⟨by decide, by decide⟩ : AtMost 0 (2 ^ 52) (-52))

theorem parts_maxStretch : ∃ pos, parts maxStretch = .finite .positive (2 ^ 52) (-54) pos :=
  ⟨by decide, rfl⟩

theorem upTo_maxStretch : UpTo (-2) (parts maxStretch) := by
  obtain ⟨pos, hparts⟩ := parts_maxStretch
  rw [hparts]
  exact .finite ⟨by decide, by decide⟩

/-- What the delay is stretched by is at most a quarter of it. -/
theorem upTo_maxStretch_mul_jitter (shard attempt : UInt32) :
    UpTo (-2) (parts (maxStretch * jitter shard attempt)) :=
  upTo_mul upTo_maxStretch (upTo_jitter shard attempt) (by omega) (by omega)

/-- The factor that stretches the delay is at most two. -/
theorem upTo_stretch (shard attempt : UInt32) :
    UpTo 1 (parts (1.0 + maxStretch * jitter shard attempt)) :=
  upTo_add upTo_one ((upTo_maxStretch_mul_jitter shard attempt).mono (by omega)) (by omega)
    (by omega)

/-- The delay after a failure in seconds, before it is turned into a duration. -/
def stretchedSeconds (b : Backoff) (f : ReconnectFailure) : Float :=
  (1.0 + maxStretch * jitter f.shard f.attempt) *
    (b.baseDelay (if f.attempt = 0 then 0 else f.attempt - 1)).seconds

theorem delayAfter_eq (b : Backoff) (f : ReconnectFailure) :
    b.delayAfter f = Duration.ofSeconds? (b.stretchedSeconds f) := rfl

/-- The number of seconds is never too great. -/
theorem upTo_stretchedSeconds (r : ReconnectSettings) (f : ReconnectFailure) :
    UpTo 58 (parts ((ofSettings r).stretchedSeconds f)) := by
  have hcap : (ofSettings r).maxDelay.nanos ≤ 2 ^ 55 * 1000000000 :=
    Duration.nanos_ofMillis_le r.maxDelayMs
  have hbase := (ofSettings r).nanos_baseDelay_le
    (if f.attempt = 0 then 0 else f.attempt - 1) hcap (by omega) (by omega)
  have hseconds := Duration.upTo_seconds _ hbase (by omega) (by omega)
  exact upTo_mul (upTo_stretch f.shard f.attempt) hseconds (by omega) (by omega)

/-- There is a delay after every failure. -/
theorem isSome_delayAfter (r : ReconnectSettings) (f : ReconnectFailure) :
    ((ofSettings r).delayAfter f).isSome := by
  obtain ⟨d, hd, -⟩ := Duration.ofSeconds?_of_upTo (k := 58) (upTo_stretchedSeconds r f) (by omega)
  rw [delayAfter_eq, hd]
  rfl

/-- For all settings, delays are computed without a failure. The delay before the stretch
is bounded, and what is turned into the delay after a failure is a number of seconds that
is not below zero and far below the longest duration. -/
theorem delay_exists (r : ReconnectSettings) (f : ReconnectFailure) :
    (∀ retry, ((ofSettings r).baseDelay retry).nanos ≤ 2 ^ 56 * 1000000000) ∧
      ∃ v d, ofFloat ((ofSettings r).stretchedSeconds f) = .finite v ∧
        0 ≤ v.toRat ∧ v.toRat < 2 ^ 64 ∧ (ofSettings r).delayAfter f = some d ∧
          d.nanos ≤ 2 ^ 58 * 1000000000 := by
  have hcap : (ofSettings r).maxDelay.nanos ≤ 2 ^ 55 * 1000000000 :=
    Duration.nanos_ofMillis_le r.maxDelayMs
  obtain ⟨v, hv, hlow, hhigh⟩ := toRat_of_upTo (upTo_stretchedSeconds r f)
  obtain ⟨d, hd, hnanos⟩ :=
    Duration.ofSeconds?_of_upTo (k := 58) (upTo_stretchedSeconds r f) (by omega)
  refine ⟨fun retry => nanos_baseDelay_le _ retry hcap (by omega) (by omega),
    v, d, hv, hlow, ?_, hd, hnanos⟩
  calc v.toRat ≤ 2 ^ (58 : Int) := hhigh
    _ < 2 ^ (64 : Int) := zpow_lt_zpow_right₀ one_lt_two (by omega)
    _ = 2 ^ 64 := zpow_natCast 2 64

end Backoff

end VoiceGateway
