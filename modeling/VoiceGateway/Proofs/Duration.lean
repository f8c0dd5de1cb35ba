import VoiceGateway.Duration
import VoiceGateway.Proofs.Number.Bounds

/-!
# Durations as numbers of seconds

A double that is between zero and `2 ^ k` seconds is a duration, and one of `2 ^ k` seconds
at most; nothing below zero is a duration, apart from the second zero. The other way, a
duration of `2 ^ k` seconds at most is a double of at most the next power of two, and a
whole number of seconds of few digits is converted exactly.

> `ofSeconds?_of_upTo`: a number of seconds up to a power of two is a duration.
> `upTo_seconds`: the length of a duration in seconds has a bound as well.
> `ofSeconds?_seconds_ofSecs`: whole seconds survive the way there and back.
-/

namespace VoiceGateway

open Float.Model Float.Model.UnpackedFloat Binary64

/-- A quotient is not rounded beyond a whole number that it is not beyond. -/
theorem roundDiv_le {tie : Tie} {num den n : Nat} (pos : 0 < den) (h : num ≤ n * den) :
    roundDiv tie num den ≤ n := by
  have hsum := Nat.div_add_mod num den
  have hle : num / den ≤ n := by
    rw [Nat.div_le_iff_le_mul_add_pred pos, Nat.mul_comm]
    omega
  by_cases hlt : num / den < n
  · have hnext : roundDiv tie num den ≤ num / den + 1 := by
      unfold roundDiv
      dsimp only
      cases tie <;> dsimp only <;> (repeat' split) <;> omega
    exact Nat.le_trans hnext hlt
  · -- The quotient is that whole number, so it comes out even.
    have hsame : num / den = n := by omega
    have hdvd : den ∣ num := by
      refine Nat.dvd_of_mod_eq_zero ?_
      rw [hsame, Nat.mul_comm] at hsum
      omega
    rw [roundDiv_eq_of_dvd pos hdvd]
    exact hle

namespace Duration

variable {x : Float} {s : Sign} {m : Nat} {e : Int} {pos : 0 < m}

theorem ofSecs_inj {m n : UInt64}
    (h : ofSecs m = ofSecs n) : m = n := by
  have hnanos : m.toNat * 1000000000 = n.toNat * 1000000000 := congrArg nanos h
  exact UInt64.toNat_inj.mp (Nat.eq_of_mul_eq_mul_right (by decide) hnanos)

/-! ## From seconds -/

theorem ofSeconds?_of_infinite (h : parts x = .infinity s) : ofSeconds? x = none := by
  have hx := denotes_parts x
  unfold ofSeconds?
  rw [h] at hx
  generalize ofFloat x = v at hx
  cases hx
  rfl

/-- Either zero is no time at all. -/
theorem ofSeconds?_of_zero (h : parts x = .zero s) : ofSeconds? x = some (ofSecs 0) := by
  have hx := denotes_parts x
  have hround : roundDiv .toEven ((0 * 1000000000) <<< (-1074 : Int).toNat)
      (1 <<< (1074 : Int).toNat) = 0 := by
    refine Nat.le_zero.mp (roundDiv_le ?_ ?_)
    · rw [Nat.one_shiftLeft]
      exact Nat.two_pow_pos _
    · rw [Nat.zero_mul, Nat.zero_shiftLeft]
      exact Nat.zero_le _
  unfold ofSeconds?
  rw [h] at hx
  generalize ofFloat x = v at hx
  cases hx
  exact (if_neg (fun h => h.2 rfl)).trans (congrArg ofNanos? hround)

theorem ofSeconds?_of_negative (h : parts x = .finite .negative m e pos) :
    ofSeconds? x = none := by
  have hx := denotes_parts x
  unfold ofSeconds?
  rw [h] at hx
  generalize ofFloat x = v at hx
  cases hx
  exact if_pos ⟨rfl, Nat.ne_of_gt pos⟩

theorem ofSeconds?_of_positive (h : parts x = .finite .positive m e pos) :
    ofSeconds? x = ofNanos? (roundDiv .toEven ((m * 1000000000) <<< e.toNat)
      (1 <<< (-e).toNat)) := by
  have hx := denotes_parts x
  unfold ofSeconds?
  rw [h] at hx
  generalize ofFloat x = v at hx
  cases hx
  exact if_neg (fun h => Bool.noConfusion h.1)

theorem ofNanos?_of_lt {n : Nat} (h : n < 0x10000000000000000 * 1000000000) :
    ofNanos? n = some ⟨n, h⟩ := dif_pos h

/-- A number of seconds up to a power of two is a duration. -/
theorem ofSeconds?_of_upTo {k : Nat} (h : UpTo k (parts x)) (small : k < 64) :
    ∃ d, ofSeconds? x = some d ∧ d.nanos ≤ 2 ^ k * 1000000000 := by
  cases hparts : parts x with
  | zero s => exact ⟨_, ofSeconds?_of_zero hparts, Nat.zero_le _⟩
  | notANumber | infinity s => rw [hparts] at h; cases h
  | finite s m e pos =>
    rw [hparts] at h
    cases h with
    | finite atMost =>
      obtain ⟨hexp, hdigits⟩ := atMost
      have hle : roundDiv .toEven ((m * 1000000000) <<< e.toNat) (1 <<< (-e).toNat) ≤
          2 ^ k * 1000000000 := by
        refine roundDiv_le ?_ ?_
        · rw [Nat.one_shiftLeft]
          exact Nat.two_pow_pos _
        · rw [Nat.one_shiftLeft, Nat.shiftLeft_eq]
          calc m * 1000000000 * 2 ^ e.toNat
              = m * 2 ^ e.toNat * 1000000000 := Nat.mul_right_comm _ _ _
            _ ≤ 2 ^ ((k : Int) - e).toNat * 2 ^ e.toNat * 1000000000 :=
                Nat.mul_le_mul_right _ (Nat.mul_le_mul_right _ hdigits)
            _ = 2 ^ k * 2 ^ (-e).toNat * 1000000000 := by
                rw [← Nat.pow_add, ← Nat.pow_add]
                congr 2
                omega
            _ = 2 ^ k * 1000000000 * 2 ^ (-e).toNat := Nat.mul_right_comm _ _ _
      have hfits : 2 ^ k * 1000000000 < 0x10000000000000000 * 1000000000 :=
        Nat.mul_lt_mul_of_pos_right
          (Nat.pow_lt_pow_right (by decide) small) (by decide)
      exact ⟨_, (ofSeconds?_of_positive hparts).trans
        (ofNanos?_of_lt (Nat.lt_of_le_of_lt hle hfits)), hle⟩

/-! ## To seconds -/

/-- The parts of the number of nanoseconds in a second. -/
theorem parts_billion :
    ∃ pos, parts 1000000000.0 = .finite .positive (1000000000 * 2 ^ 23) (-23) pos :=
  ⟨by decide, rfl⟩

/-- The part of a second that is not whole. -/
theorem upTo_fraction (n : Nat) :
    UpTo 1 (parts ((n % 1000000000).toUInt64.toFloat / 1000000000.0)) := by
  obtain ⟨pos, hbillion⟩ := parts_billion
  have hsmall : (n % 1000000000).toUInt64.toNat ≤ 2 ^ 30 := by
    rw [Nat.toUInt64_eq, UInt64.toNat_ofNat']
    omega
  exact upTo_div (upTo_toFloat hsmall (by omega)) hbillion
    (⟨by decide, by decide⟩ : AtLeast 29 (1000000000 * 2 ^ 23) (-23)) (by omega) (by omega)

/-- The length of a duration in seconds has a bound as well. -/
theorem upTo_seconds (d : Duration) {k : Nat} (h : d.nanos ≤ 2 ^ k * 1000000000) (pos : 1 ≤ k)
    (small : k < 1023) : UpTo ((k : Int) + 1) (parts d.seconds) := by
  have hsecs : (d.nanos / 1000000000).toUInt64.toNat ≤ 2 ^ k := by
    have := d.nanos_lt
    rw [Nat.toUInt64_eq, UInt64.toNat_ofNat', Nat.mod_eq_of_lt (by omega)]
    omega
  exact upTo_add (upTo_toFloat hsecs (by omega)) ((upTo_fraction d.nanos).mono (by omega))
    (by omega) (by omega)

/-- A duration is no number of seconds below zero. -/
theorem nonNegative_seconds (d : Duration) : NonNegative (parts d.seconds) := by
  have h := d.nanos_lt
  have hle : d.nanos ≤ 2 ^ 64 * 1000000000 := Nat.le_of_lt h
  exact (d.upTo_seconds hle (by omega) (by omega)).nonNegative

/-- Whole seconds of few digits survive the way to a double and back. -/
theorem ofSeconds?_seconds_ofSecs {n : UInt64} (small : n.toNat < 2 ^ 53) :
    ofSeconds? (ofSecs n).seconds = some (ofSecs n) := by
  have hsum : parts (ofSecs n).seconds =
      repacked (.add .binary64 (parts n.toFloat) (.zero .positive)) := by
    have hwhole : ((ofSecs n).nanos / 1000000000).toUInt64 = n := by
      show (n.toNat * 1000000000 / 1000000000).toUInt64 = n
      rw [Nat.mul_div_cancel _ (by decide), Nat.toUInt64_eq, UInt64.ofNat_toNat]
    have hrest : (ofSecs n).nanos % 1000000000 = 0 := Nat.mul_mod_left _ _
    show parts (((ofSecs n).nanos / 1000000000).toUInt64.toFloat +
      ((ofSecs n).nanos % 1000000000).toUInt64.toFloat / 1000000000.0) = _
    rw [hwhole, hrest, parts_add]
    rfl
  by_cases hzero : n.toNat = 0
  · have hn : n = 0 := UInt64.toNat_inj.mp hzero
    subst hn
    exact ofSeconds?_of_zero (hsum.trans (repacked_zero .positive))
  · have hlog : n.toNat.log2 < 53 := (Nat.log2_lt hzero).mpr small
    obtain ⟨pos, hparts⟩ := parts_toFloat_of_lt (by omega) small
    have hsame : parts (ofSecs n).seconds = parts n.toFloat := by
      rw [hsum, hparts]
      exact (congrArg repacked hparts.symm).trans ((repacked_parts n.toFloat).trans hparts)
    rw [ofSeconds?_of_positive (hsame.trans hparts),
      show ((n.toNat.log2 : Int) - 52).toNat = 0 by omega,
      show (-((n.toNat.log2 : Int) - 52)).toNat = 52 - n.toNat.log2 by omega,
      Nat.shiftLeft_zero, Nat.one_shiftLeft, Nat.shiftLeft_eq, Nat.mul_right_comm,
      roundDiv_eq_of_dvd (Nat.two_pow_pos _) (Nat.dvd_mul_left _ _),
      Nat.mul_div_cancel _ (Nat.two_pow_pos _)]
    exact ofNanos?_of_lt _

end Duration

end VoiceGateway
