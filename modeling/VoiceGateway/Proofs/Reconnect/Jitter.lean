import VoiceGateway.Proofs.Number.Values
import VoiceGateway.Proofs.Reconnect.Delays

/-!
# Mixing of shard and attempt

The two numbers are put side by side in one word, and no step from there loses anything. Mixing
the upper bits of a word into the lower ones is linear, and only zero is taken to zero, because
only zero is what it was after it has been moved down. Multiplying by an odd number can be
undone modulo a power of two. So no two pairs have the same mixed value.

The numerator of the stretch consists of the upper 53 bits of that value. A double has as many
digits, so what is computed from it is exact until one is added, and the bounds hold after that.

> `pair_injective`, `xorShift_injective`, `mul_odd_injective`: the steps lose nothing.
> `mix_injective`: nor does the mixing.
> `hasValue_jitter`: which numbers are computed exactly.
> `jitter_spreads`: what the mixing promises about shards and attempts.
-/

namespace VoiceGateway.Backoff

open Float.Model Float.Model.UnpackedFloat Binary64

variable {x y c k : UInt64} {shard shard' attempt attempt' : UInt32}

/-! ## Steps -/

/-- Shard and attempt side by side. -/
def pair (shard attempt : UInt32) : UInt64 := shard.toUInt64 <<< 32 ||| attempt.toUInt64

/-- A word with its upper bits mixed into the lower ones. -/
def xorShift (k x : UInt64) : UInt64 := x ^^^ x >>> k

/-- One round of the mixing. -/
def mixRound (k c x : UInt64) : UInt64 := xorShift k x * c

/-- The mixing consists of two rounds and another shift. -/
theorem mix_eq (shard attempt : UInt32) : mix shard attempt =
    xorShift 31 (mixRound 27 0x94d049bb133111eb (mixRound 30 0xbf58476d1ce4e5b9
      (pair shard attempt))) := rfl

theorem toNat_pair (shard attempt : UInt32) :
    (pair shard attempt).toNat = shard.toNat * 2 ^ 32 + attempt.toNat := by
  have hshard := shard.toNat_lt
  have hattempt := attempt.toNat_lt
  have hshift : (shard.toUInt64 <<< 32).toNat = shard.toNat <<< 32 := by
    rw [UInt64.toNat_shiftLeft, UInt32.toNat_toUInt64]
    show shard.toNat <<< 32 % 2 ^ 64 = _
    rw [Nat.shiftLeft_eq, Nat.mod_eq_of_lt (by omega)]
  unfold pair
  rw [UInt64.toNat_or, hshift, UInt32.toNat_toUInt64,
    ← Nat.shiftLeft_add_eq_or_of_lt hattempt, Nat.shiftLeft_eq]

theorem pair_injective (h : pair shard attempt = pair shard' attempt') :
    shard = shard' ∧ attempt = attempt' := by
  have hnat := congrArg UInt64.toNat h
  rw [toNat_pair, toNat_pair] at hnat
  have hattempt := attempt.toNat_lt
  have hattempt' := attempt'.toNat_lt
  exact ⟨UInt32.toNat_inj.mp (by omega), UInt32.toNat_inj.mp (by omega)⟩

/-- Only zero stays what it is when it is moved down. -/
theorem eq_zero_of_shiftRight_eq (pos : 0 < k.toNat % 64) (h : x >>> k = x) : x = 0 := by
  have hnat := congrArg UInt64.toNat h
  rw [UInt64.toNat_shiftRight, Nat.shiftRight_eq_div_pow, Nat.div_eq_self] at hnat
  rcases hnat with hzero | hone
  · exact UInt64.toNat_inj.mp hzero
  · have := Nat.one_lt_two_pow (Nat.ne_of_gt pos)
    omega

/-- The bits of the difference of two words are mixed like the words themselves. -/
theorem xorShift_xor (k x y : UInt64) : xorShift k (x ^^^ y) = xorShift k x ^^^ xorShift k y := by
  unfold xorShift
  rw [UInt64.shiftRight_xor]
  ac_rfl

theorem xorShift_injective (pos : 0 < k.toNat % 64) (h : xorShift k x = xorShift k y) :
    x = y := by
  have hzero : xorShift k (x ^^^ y) = 0 := by
    rw [xorShift_xor, UInt64.xor_eq_zero_iff]
    exact h
  have hsame : (x ^^^ y) >>> k = x ^^^ y := (UInt64.xor_eq_zero_iff.mp hzero).symm
  exact UInt64.xor_eq_zero_iff.mp (eq_zero_of_shiftRight_eq pos hsame)

/-- An odd number has no factor in common with the number of words. -/
theorem mul_odd_injective (odd : Odd c.toNat) (h : x * c = y * c) : x = y := by
  have hnat := congrArg UInt64.toNat h
  rw [UInt64.toNat_mul, UInt64.toNat_mul] at hnat
  have hcoprime : Nat.Coprime (2 ^ 64) c.toNat := (Nat.coprime_two_left.mpr odd).pow_left 64
  have hmod : x.toNat ≡ y.toNat [MOD 2 ^ 64] := Nat.ModEq.cancel_right_of_coprime hcoprime hnat
  exact UInt64.toNat_inj.mp (hmod.eq_of_lt_of_lt x.toNat_lt y.toNat_lt)

theorem mixRound_injective (pos : 0 < k.toNat % 64) (odd : Odd c.toNat)
    (h : mixRound k c x = mixRound k c y) : x = y :=
  xorShift_injective pos (mul_odd_injective odd h)

/-- No two pairs of a shard and an attempt have the same mixed value. -/
theorem mix_injective (h : mix shard attempt = mix shard' attempt') :
    shard = shard' ∧ attempt = attempt' := by
  rw [mix_eq, mix_eq] at h
  have hsecond := xorShift_injective (by decide) h
  have hfirst := mixRound_injective (by decide) (by decide) hsecond
  exact pair_injective (mixRound_injective (by decide) (by decide) hfirst)

/-! ## Values -/

/-- The jitter as a number. -/
def fraction (shard attempt : UInt32) : ℚ := (jitterNumerator shard attempt).toNat / 2 ^ 53

/-- The factor of the delay as a number. -/
def stretch (shard attempt : UInt32) : ℚ := 1 + fraction shard attempt / 4

theorem fraction_nonneg (shard attempt : UInt32) : 0 ≤ fraction shard attempt :=
  div_nonneg (Nat.cast_nonneg _) (by norm_num)

theorem fraction_lt_one (shard attempt : UInt32) : fraction shard attempt < 1 := by
  have hlt : ((jitterNumerator shard attempt).toNat : ℚ) < 2 ^ 53 := by
    exact_mod_cast jitterNumerator_lt shard attempt
  exact (div_lt_one (by norm_num)).mpr hlt

/-- Moving the digits up and the exponent down leaves the value as it is. -/
theorem shiftLeft_mul_zpow (n i : Nat) (e : Int) :
    ((n <<< i : Nat) : ℚ) * 2 ^ (e - i) = n * 2 ^ e := by
  rw [Nat.shiftLeft_eq, Nat.cast_mul, Nat.cast_pow, Nat.cast_ofNat, mul_assoc, ← zpow_natCast,
    ← zpow_add₀ (by decide)]
  congr 2
  omega

/-- What has no more digits than a double is divided exactly, and so is a quarter of it. -/
theorem parts_jitter {n : UInt64} (pos : 0 < n.toNat) (small : n.toNat < 2 ^ 53) :
    ∃ i : Nat, ∃ pos',
      parts (n.toFloat / 9007199254740992.0) =
        .finite .positive (n.toNat <<< i) (-53 - i) pos' ∧
      parts (maxStretch * (n.toFloat / 9007199254740992.0)) =
        .finite .positive (n.toNat <<< i) (-55 - i) pos' := by
  have hlog : n.toNat.log2 < 53 := (Nat.log2_lt (Nat.ne_of_gt pos)).mpr small
  obtain ⟨posDenominator, hdenominator⟩ := parts_denominator
  obtain ⟨posStretch, hstretch⟩ := parts_maxStretch
  obtain ⟨pos, hnumerator⟩ := parts_toFloat_of_lt pos small
  have hfull := (tight_of_parts hnumerator).1.full.resolve_right (by omega)
  have hjitter := parts_div_two_pow hnumerator hdenominator hfull (by omega) (by omega)
  have hquarter := parts_two_pow_mul hstretch hjitter hfull (by omega) (by omega)
  refine ⟨52 - n.toNat.log2, pos, hjitter.trans ?_, hquarter.trans ?_⟩
  · congr 1
    omega
  · congr 1
    omega

/-- The jitter is computed exactly, and so is what the delay is stretched by. -/
theorem hasValue_jitter (shard attempt : UInt32) :
    HasValue (jitter shard attempt) (fraction shard attempt) ∧
      HasValue (maxStretch * jitter shard attempt) (fraction shard attempt / 4) := by
  have hsmall := jitterNumerator_lt shard attempt
  unfold jitter fraction
  generalize jitterNumerator shard attempt = n at hsmall ⊢
  by_cases hzero : n.toNat = 0
  · obtain rfl : n = 0 := UInt64.toNat_inj.mp hzero
    have hvalue : ((0 : UInt64).toNat : ℚ) = 0 := Nat.cast_zero
    rw [hvalue, zero_div, zero_div]
    exact ⟨hasValue_of_zero rfl, hasValue_of_zero rfl⟩
  · obtain ⟨i, pos, hjitter, hquarter⟩ := parts_jitter (Nat.pos_of_ne_zero hzero) hsmall
    have hfraction : (n.toNat : ℚ) / 2 ^ 53 = n.toNat * 2 ^ (-53 : Int) := by
      rw [zpow_neg, div_eq_mul_inv]
      rfl
    have hshare : (n.toNat : ℚ) / 2 ^ 53 / 4 = n.toNat * 2 ^ (-55 : Int) := by
      rw [hfraction, div_eq_mul_inv, mul_assoc]
      norm_num
    have hvalue := hasValue_of_positive hjitter
    have hvalue' := hasValue_of_positive hquarter
    rw [shiftLeft_mul_zpow] at hvalue hvalue'
    rw [hshare, hfraction]
    exact ⟨hvalue, hvalue'⟩

/-- What the mixing promises. No two pairs of a shard and an attempt have the same mixed value,
so neither have two shards at the same attempt nor two attempts of a shard. The numerator is
the upper 53 bits of that value and below the denominator, so the jitter is from zero to less
than one and the factor of the delay from one to less than five quarters. The doubles of the
jitter and of the part that is added to one are exactly these numbers, and the sum, which is
rounded, is from one to five quarters. -/
theorem jitter_spreads :
    (∀ shard attempt shard' attempt', mix shard attempt = mix shard' attempt' ↔
      shard = shard' ∧ attempt = attempt') ∧
    (∀ shard shard' attempt, mix shard attempt = mix shard' attempt ↔ shard = shard') ∧
    (∀ shard attempt attempt', mix shard attempt = mix shard attempt' ↔ attempt = attempt') ∧
    ∀ shard attempt,
      (jitterNumerator shard attempt).toNat = (mix shard attempt).toNat / 2 ^ 11 ∧
      (jitterNumerator shard attempt).toNat < 2 ^ 53 ∧
      (0 ≤ fraction shard attempt ∧ fraction shard attempt < 1) ∧
      (1 ≤ stretch shard attempt ∧ stretch shard attempt < 5 / 4) ∧
      HasValue (jitter shard attempt) (fraction shard attempt) ∧
      HasValue (maxStretch * jitter shard attempt) (fraction shard attempt / 4) ∧
      ∃ q, HasValue (1.0 + maxStretch * jitter shard attempt) q ∧ 1 ≤ q ∧ q ≤ 5 / 4 := by
  refine ⟨fun shard attempt shard' attempt' => ⟨mix_injective, ?_⟩,
    fun shard shard' attempt => ⟨fun h => (mix_injective h).1, fun h => by rw [h]⟩,
    fun shard attempt attempt' => ⟨fun h => (mix_injective h).2, fun h => by rw [h]⟩,
    fun shard attempt => ?_⟩
  · rintro ⟨rfl, rfl⟩
    rfl
  · have hlow := fraction_nonneg shard attempt
    have hhigh := fraction_lt_one shard attempt
    have hstretch : stretch shard attempt = 1 + fraction shard attempt / 4 := rfl
    obtain ⟨hjitter, hshare⟩ := hasValue_jitter shard attempt
    obtain ⟨q, hsum, hone, hquarter⟩ :=
      hasValue_one_add (upTo_maxStretch_mul_jitter shard attempt) (by omega) (by omega)
    refine ⟨toNat_jitterNumerator shard attempt, jitterNumerator_lt shard attempt, ⟨hlow, hhigh⟩,
      ⟨?_, ?_⟩, hjitter, hshare, q, hsum, hone, ?_⟩
    · linarith
    · linarith
    · calc q ≤ 1 + 2 ^ (-2 : Int) := hquarter
        _ = 5 / 4 := by norm_num

end VoiceGateway.Backoff
