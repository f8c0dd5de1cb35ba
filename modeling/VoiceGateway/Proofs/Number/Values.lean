import VoiceGateway.Proofs.Number.Bounds

/-!
# Values of results

A product or a quotient of a double and a power of two has the digits of the double and another
exponent; unless that one is out of range, nothing is rounded. A sum of one and a lesser number
may be rounded, but it stays between one and the greatest that it could be.

> `parts_two_pow_mul`, `parts_div_two_pow`: scaling by a power of two.
> `hasValue_one_add`: the bounds of a number to which one has been added.
-/

namespace VoiceGateway.Binary64

open Float.Model Float.Model.UnpackedFloat

variable {x y : Float} {u : UnpackedFloat} {m : Nat} {e e' k t : Int}
  {pos : 0 < m} {pos' : 0 < 2 ^ 52}

/-! ## Scaling -/

theorem parts_two_pow_mul (hx : parts x = .finite .positive (2 ^ 52) e' pos')
    (hy : parts y = .finite .positive m e pos) (full : 2 ^ 52 ≤ m)
    (least : -1074 ≤ e' + e + 52) (top : e' + e + 52 ≤ 971) :
    parts (x * y) = .finite .positive m (e' + e + 52) pos := by
  have htight : Tight m (e' + e + (52 : Nat)) := ⟨(tight_of_parts hy).1.lt, least, Or.inl full⟩
  have hmul : UnpackedFloat.mul .binary64 (parts x) (parts y) =
      roundWithAccuracy .binary64 .positive (2 ^ 52 * m) (e' + e) .exact := by
    rw [hx, hy]
    rfl
  rw [parts_mul, hmul, Nat.mul_comm, ← Nat.shiftLeft_eq, roundWithAccuracy_of_zeros htight pos]
  exact repacked_finite htight top

/-- The digits of the numerator, some zeros behind them, and nothing is left over. -/
theorem shiftLeft_div_two_pow {i j : Nat} (h : j ≤ i) (m : Nat) :
    m <<< i / 2 ^ j = m <<< (i - j) ∧ m <<< i % 2 ^ j = 0 := by
  have hpow : m <<< i = m <<< (i - j) * 2 ^ j := by
    rw [Nat.shiftLeft_eq, Nat.shiftLeft_eq, Nat.mul_assoc, ← Nat.pow_add, Nat.sub_add_cancel h]
  rw [hpow]
  exact ⟨Nat.mul_div_cancel _ (Nat.two_pow_pos j), Nat.mul_mod_left _ _⟩

theorem parts_div_two_pow (hx : parts x = .finite .positive m e pos)
    (hy : parts y = .finite .positive (2 ^ 52) e' pos') (full : 2 ^ 52 ≤ m)
    (least : -1074 ≤ e - e' - 52) (top : e - e' - 52 ≤ 971) :
    parts (x / y) = .finite .positive m (e - e' - 52) pos := by
  have htight : Tight m (e - e' - 52) := ⟨(tight_of_parts hx).1.lt, least, Or.inl full⟩
  have hlog : m.log2 = 52 := (Nat.log2_eq_iff (by omega)).mpr ⟨full, htight.lt⟩
  obtain ⟨t, hdiv, -, hlow, -⟩ := div_eq pos e pos' e'
  rw [hlog, Nat.log2_two_pow] at hlow
  have hroom : 52 ≤ (e - e' - t).toNat := by omega
  obtain ⟨hquotient, hrest⟩ := shiftLeft_div_two_pow hroom m
  have hexp : e - e' - 52 = t + ((e - e' - t).toNat - 52 : Nat) := by omega
  rw [hquotient, hrest] at hdiv
  rw [hexp] at htight top ⊢
  rw [parts_div, hx, hy, hdiv]
  exact (congrArg repacked (roundWithAccuracy_of_zeros htight pos)).trans
    (repacked_finite htight top)

/-! ## One and something less -/

theorem parts_one : ∃ pos, parts 1.0 = .finite .positive (2 ^ 52) (-52) pos := ⟨by decide, rfl⟩

/-- What is between one and two has 52 digits behind the point. Rounding to these does not take
it below one, nor beyond another number of as many digits. -/
theorem round_of_one_le (low : 2 ^ (-t).toNat ≤ m)
    (high : m ≤ 2 ^ (-t).toNat + 2 ^ (k - t).toNat) (fine : t ≤ -52) (least : -52 ≤ k)
    (small : k < 0) :
    ∃ r pos, roundWithAccuracy .binary64 .positive m t .exact = .finite .positive r (-52) pos ∧
      2 ^ 52 ≤ r ∧ r ≤ 2 ^ 52 + 2 ^ (52 + k).toNat := by
  have hhalf : 2 ^ (k - t).toNat < 2 ^ (-t).toNat := Nat.pow_lt_pow_right (by decide) (by omega)
  have hlog : m.log2 = (-t).toNat := by
    rw [Nat.log2_eq_iff (by have := Nat.two_pow_pos (-t).toNat; omega), Nat.pow_succ]
    omega
  have hdropped : dropped m t = (-52 - t).toNat := by
    unfold dropped
    rw [hlog]
    omega
  have hone : 2 ^ (-t).toNat = 2 ^ 52 * 2 ^ dropped m t := by
    rw [hdropped, ← Nat.pow_add]
    congr 1
    omega
  have hmore : 2 ^ (k - t).toNat = 2 ^ (52 + k).toNat * 2 ^ dropped m t := by
    rw [hdropped, ← Nat.pow_add]
    congr 1
    omega
  rw [hmore, hone, ← Nat.add_mul] at high
  rw [hone] at low
  have hle : 2 ^ 52 ≤ kept m t .exact := le_kept_of_le low
  have hge : kept m t .exact ≤ 2 ^ 52 + 2 ^ (52 + k).toNat := kept_le_of_le high (Or.inl rfl)
  have hroom : 2 ^ (52 + k).toNat < 2 ^ 52 := Nat.pow_lt_pow_right (by decide) (by omega)
  have hspec := roundWithAccuracy_spec .positive m t .exact
  rw [show t + dropped m t = -52 by omega] at hspec
  generalize roundWithAccuracy Format.binary64 .positive m t .exact = u at hspec ⊢
  cases hspec with
  | none zero => omega
  | kept pos lt => exact ⟨_, pos, rfl, hle, hge⟩
  | carried full pos => omega

/-- Before it is packed, one and a number of at most a power of two. -/
theorem UpTo.one_add (hu : UpTo k u) (ru : Rounded u) (least : -52 ≤ k) (small : k < 0) :
    ∃ r pos, UnpackedFloat.add .binary64 (.finite .positive (2 ^ 52) (-52) pos') u =
      .finite .positive r (-52) pos ∧ 2 ^ 52 ≤ r ∧ r ≤ 2 ^ 52 + 2 ^ (52 + k).toNat := by
  cases hu with
  | zero s => exact ⟨2 ^ 52, pos', rfl, Nat.le_refl _, Nat.le_add_right _ _⟩
  | @finite m e pos atMost =>
    cases ru with
    | finite tight =>
      -- The digits of the number reach further down than those of one.
      have hlower : e ≤ -53 := by
        rcases tight.full with hfull | hleast
        · have := (Nat.pow_le_pow_iff_right (by decide)).mp (Nat.le_trans hfull atMost.digits)
          omega
        · omega
      have hmin : min (-52) e = e := by omega
      have hsum : 0 < 2 ^ 52 <<< (-52 - e).toNat + m <<< (e - e).toNat :=
        Nat.add_pos_left (Nat.shiftLeft_pos_iff.mpr pos') _
      obtain ⟨t, hround, hle, -⟩ := round_eq .positive _ e hsum
      have hone : 2 ^ 52 <<< (-52 - e).toNat <<< (e - t).toNat = 2 ^ (-t).toNat := by
        rw [← Nat.shiftLeft_add, Nat.shiftLeft_eq, ← Nat.pow_add]
        congr 1
        omega
      have hmore : m <<< (e - e).toNat <<< (e - t).toNat ≤ 2 ^ (k - t).toNat := by
        rw [← Nat.shiftLeft_add, show (e - e).toNat + (e - t).toNat = (e - t).toNat by omega]
        exact (atMost.shift hle).digits
      rw [add_eq pos' pos, hmin, hround, Nat.shiftLeft_eq _ (e - t).toNat, Nat.add_mul,
        ← Nat.shiftLeft_eq, ← Nat.shiftLeft_eq, hone]
      exact round_of_one_le (Nat.le_add_right _ _) (Nat.add_le_add_left hmore _) (by omega)
        least small

theorem parts_one_add (hx : UpTo k (parts x)) (least : -52 ≤ k) (small : k < 0) :
    ∃ r pos, parts (1.0 + x) = .finite .positive r (-52) pos ∧
      2 ^ 52 ≤ r ∧ r ≤ 2 ^ 52 + 2 ^ (52 + k).toNat := by
  obtain ⟨_, hone⟩ := parts_one
  obtain ⟨r, pos, hadd, hlow, hhigh⟩ := hx.one_add (rounded_parts x) least small
  have hroom : 2 ^ (52 + k).toNat < 2 ^ 52 := Nat.pow_lt_pow_right (by decide) (by omega)
  have htight : Tight r (-52) := ⟨by omega, by omega, Or.inl hlow⟩
  refine ⟨r, pos, ?_, hlow, hhigh⟩
  rw [parts_add, hone, hadd, repacked_finite htight (by omega)]

/-- One and a number of at most a power of two are at least one, and no more than one and that
power. -/
theorem hasValue_one_add (hx : UpTo k (parts x)) (least : -52 ≤ k) (small : k < 0) :
    ∃ q, HasValue (1.0 + x) q ∧ 1 ≤ q ∧ q ≤ 1 + 2 ^ k := by
  obtain ⟨r, pos, hparts, hlow, hhigh⟩ := parts_one_add hx least small
  have hscale : (0 : ℚ) ≤ 2 ^ (-52 : Int) := zpow_nonneg (by decide) _
  have hlow' : (2 ^ 52 : ℚ) ≤ r := by exact_mod_cast hlow
  have hhigh' : (r : ℚ) ≤ 2 ^ 52 + 2 ^ (52 + k) := by
    rw [← Int.toNat_of_nonneg (by omega : 0 ≤ 52 + k), zpow_natCast]
    exact_mod_cast hhigh
  refine ⟨r * 2 ^ (-52 : Int), hasValue_of_positive hparts, ?_, ?_⟩
  · calc (1 : ℚ) = 2 ^ 52 * 2 ^ (-52 : Int) := by norm_num
      _ ≤ r * 2 ^ (-52 : Int) := mul_le_mul_of_nonneg_right hlow' hscale
  · calc (r : ℚ) * 2 ^ (-52 : Int) ≤ (2 ^ 52 + 2 ^ (52 + k)) * 2 ^ (-52 : Int) :=
          mul_le_mul_of_nonneg_right hhigh' hscale
      _ = 1 + 2 ^ k := by
        rw [add_mul, ← zpow_add₀ (by decide)]
        congr 1
        · norm_num
        · congr 1
          omega

end VoiceGateway.Binary64
