import VoiceGateway.Proofs.Reconnect.Delays

/-!
# Factors that lead nowhere

A factor that is not a number spreads through every power, so the cap takes the place of the
growth. A negative one is caught less often. Squaring takes the sign away, so with an even
exponent the delays are those of the factor without its sign; with an odd one the growth is
negative and makes room for the cap, unless it is rounded to zero, which is a duration.

> `power_nan`, `power_neg_of_even`, `power_neg_of_odd`: powers of bad factors.
> `baseDelay_of_nan_factor`, `baseDelay_unsigned`, `baseDelay_of_neg`: where they lead to.
> `bad_factor_fallback`: when the delay is the cap.
-/

namespace VoiceGateway.Backoff

open Float.Model Float.Model.UnpackedFloat Binary64

variable {acc x y : Float} {fuel n : Nat}

/-! ## Powers -/

/-- A sign that has got into the product stays there. -/
theorem powerOnto_neg_acc (acc x : Float) (fuel n : Nat) :
    powerOnto (-acc) x fuel n = -powerOnto acc x fuel n := by
  induction fuel generalizing acc x n with
  | zero => rfl
  | succ fuel ih =>
    have hacc : (if n % 2 = 1 then -acc * x else -acc) = -(if n % 2 = 1 then acc * x else acc) := by
      split
      · exact Binary64.neg_mul acc x
      · rfl
    unfold powerOnto
    rw [hacc]
    dsimp only
    split
    · rfl
    · exact ih _ _ _

/-- Squaring takes the sign of the base away, and no other factor gets in. -/
theorem power_neg_of_even (x : Float) (even : n % 2 = 0) : power (-x) n = power x n := by
  have hodd : ¬ n % 2 = 1 := by omega
  unfold power powerOnto
  dsimp only
  rw [if_neg hodd, Binary64.neg_mul_neg, if_neg hodd]

/-- With an odd exponent the base itself is a factor as well. -/
theorem power_neg_of_odd (x : Float) (odd : n % 2 = 1) : power (-x) n = -power x n := by
  unfold power powerOnto
  dsimp only
  rw [if_pos odd, Binary64.neg_mul_neg, if_pos odd, Binary64.mul_neg]
  split
  · rfl
  · exact powerOnto_neg_acc _ _ _ _

theorem nonNegative_powerOnto (hacc : NonNegative (parts acc)) (hx : NonNegative (parts x))
    (fuel n : Nat) : NonNegative (parts (powerOnto acc x fuel n)) := by
  induction fuel generalizing acc x n with
  | zero => exact hacc
  | succ fuel ih =>
    have hacc' : NonNegative (parts (if n % 2 = 1 then acc * x else acc)) := by
      split
      · exact nonNegative_mul hacc hx
      · exact hacc
    unfold powerOnto
    dsimp only
    split
    · exact hacc'
    · exact ih hacc' (nonNegative_mul hx hx) _

/-- No power of a base that is not below zero is below zero. -/
theorem nonNegative_power (hx : NonNegative (parts x)) (n : Nat) :
    NonNegative (parts (power x n)) := by
  have hone : NonNegative (parts 1.0) := .finite
  exact nonNegative_powerOnto hone hx 31 n

theorem powerOnto_nan_acc (h : parts acc = .notANumber) (x : Float) (fuel n : Nat) :
    parts (powerOnto acc x fuel n) = .notANumber := by
  induction fuel generalizing acc x n with
  | zero => exact h
  | succ fuel ih =>
    have hacc' : parts (if n % 2 = 1 then acc * x else acc) = .notANumber := by
      split
      · exact nan_mul x h
      · exact h
    unfold powerOnto
    dsimp only
    split
    · exact hacc'
    · exact ih hacc' _ _

/-- The leading digit of the exponent is a one, so the base gets in at last. -/
theorem powerOnto_nan (acc : Float) (h : parts x = .notANumber) (pos : 0 < n) (lt : n < 2 ^ fuel) :
    parts (powerOnto acc x fuel n) = .notANumber := by
  induction fuel generalizing acc x n with
  | zero => omega
  | succ fuel ih =>
    unfold powerOnto
    dsimp only
    by_cases odd : n % 2 = 1
    · rw [if_pos odd]
      split
      · exact mul_nan acc h
      · exact powerOnto_nan_acc (mul_nan acc h) _ _ _
    · rw [if_neg odd, if_neg (by omega)]
      exact ih acc (nan_mul x h) (by omega) (by omega)

/-- No power of what is not a number is a number, but for the exponent zero. -/
theorem power_nan (h : parts x = .notANumber) (pos : 0 < n) (le : n ≤ maxExponent) :
    parts (power x n) = .notANumber :=
  powerOnto_nan 1.0 h pos (Nat.lt_succ_of_le le)

/-! ## Signs of doubles -/

theorem nonNegative_neg_of_lt (h : x < 0.0) : NonNegative (parts (-x)) := by
  rw [lt_iff_compare] at h
  rw [parts_neg]
  generalize parts x = u at h
  cases u with
  | notANumber => exact .nan
  | zero s => exact .zero _
  | infinity s =>
    cases s with
    | positive => exact absurd h (by decide)
    | negative => exact .infinity
  | finite s m e pos =>
    cases s with
    | positive => exact absurd (show some Ordering.gt = some .lt from h) (by decide)
    | negative => exact .finite

/-- What is not below zero is not less than what is not above zero. -/
theorem not_lt_of_neg (hx : NonNegative (parts x).neg) (hy : NonNegative (parts y)) : ¬ y < x := by
  rw [lt_iff_compare]
  intro h
  generalize parts x = u at hx h
  generalize parts y = v at hy h
  cases u with
  | notANumber => cases hy <;> cases h
  | zero s => cases hy <;> cases h
  | infinity s =>
    cases s with
    | positive => cases hx
    | negative => cases hy <;> cases h
  | finite s m e pos =>
    cases s with
    | positive => cases hx
    | negative => cases hy <;> cases h

/-- A double that equals zero is one of the two zeros. -/
theorem beq_zero_iff (x : Float) : (x == 0.0) = true ↔ ∃ s, parts x = .zero s := by
  have hparts : (x == 0.0) = (UnpackedFloat.compare (parts x) (.zero .positive) == some .eq) := rfl
  rw [hparts, beq_iff_eq]
  refine ⟨fun h => ?_, fun ⟨s, h⟩ => by rw [h]; rfl⟩
  generalize parts x = u at h ⊢
  cases u with
  | zero s => exact ⟨s, rfl⟩
  | notANumber => cases h
  | infinity s | finite s => cases s <;> cases h

/-! ## Delays -/

/-- The number of times the factor counts for a retry. -/
def exponent (retry : UInt32) : Nat := min retry.toNat maxExponent

/-- The delay before it is cut at the cap, in seconds. -/
def grown (b : Backoff) (retry : UInt32) : Float :=
  b.initialDelay.seconds * power b.factor (exponent retry)

/-- The schedule with the factor's sign taken away. -/
def unsigned (b : Backoff) : Backoff := { b with factor := -b.factor }

theorem baseDelay_eq (b : Backoff) (retry : UInt32) : b.baseDelay retry =
    (Duration.ofSeconds? (lesser (b.grown retry) b.maxDelay.seconds)).getD b.maxDelay := rfl

/-- Where the growth is no number the cap takes its place. -/
theorem baseDelay_of_nan {b : Backoff} {retry : UInt32} {secs : UInt64}
    (h : parts (b.grown retry) = .notANumber) (whole : b.maxDelay = .ofSecs secs)
    (small : secs.toNat < 2 ^ 53) : b.baseDelay retry = b.maxDelay := by
  have hlesser : lesser (b.grown retry) b.maxDelay.seconds = b.maxDelay.seconds :=
    if_pos ((isNaN_iff _).mpr h)
  rw [baseDelay_eq, hlesser, whole, Duration.ofSeconds?_seconds_ofSecs small]
  rfl

/-- Growth below zero makes room for the cap, unless it is rounded to zero. -/
theorem baseDelay_of_neg {b : Backoff} {retry : UInt32} {secs : UInt64}
    (h : NonNegative (parts (b.grown retry)).neg) (whole : b.maxDelay = .ofSecs secs)
    (small : secs.toNat < 2 ^ 53) :
    b.baseDelay retry = if b.grown retry == 0.0 then .ofSecs 0 else b.maxDelay := by
  by_cases number : parts (b.grown retry) = .notANumber
  · have hzero : ¬ (b.grown retry == 0.0) = true := by
      rw [beq_zero_iff, number]
      exact fun ⟨_, h⟩ => nomatch h
    rw [if_neg hzero]
    exact baseDelay_of_nan number whole small
  · have hlesser : lesser (b.grown retry) b.maxDelay.seconds = b.grown retry := by
      unfold lesser
      rw [if_neg (mt (isNaN_iff _).mp number),
        if_neg (not_lt_of_neg h b.maxDelay.nonNegative_seconds)]
    rw [baseDelay_eq, hlesser]
    split
    · next hzero =>
      obtain ⟨s, hzero⟩ := (beq_zero_iff _).mp hzero
      rw [Duration.ofSeconds?_of_zero hzero]
      rfl
    · next hzero =>
      -- Less than zero, so it is no duration.
      have hnone : Duration.ofSeconds? (b.grown retry) = none := by
        cases hparts : parts (b.grown retry) with
        | notANumber => exact absurd hparts number
        | zero s => exact absurd ((beq_zero_iff _).mpr ⟨s, hparts⟩) hzero
        | infinity s => exact Duration.ofSeconds?_of_infinite hparts
        | finite s m e pos =>
          rw [hparts] at h
          cases s with
          | positive => cases h
          | negative => exact Duration.ofSeconds?_of_negative hparts
      rw [hnone]
      rfl

/-- A factor that is not a number leads to the cap. -/
theorem baseDelay_of_nan_factor {b : Backoff} {retry : UInt32} {secs : UInt64}
    (nan : b.factor.isNaN = true) (later : 1 ≤ retry) (whole : b.maxDelay = .ofSecs secs)
    (small : secs.toNat < 2 ^ 53) : b.baseDelay retry = b.maxDelay := by
  have hpos : 0 < exponent retry := by
    have : 1 ≤ retry.toNat := UInt32.le_iff_toNat_le.mp later
    exact Nat.lt_min.mpr ⟨this, by decide⟩
  have hpower := power_nan ((isNaN_iff _).mp nan) hpos (Nat.min_le_right _ _)
  exact baseDelay_of_nan (mul_nan _ hpower) whole small

/-- With an odd exponent the growth by a negative factor is not above zero. -/
theorem nonNegative_neg_grown {b : Backoff} {retry : UInt32} (negative : b.factor < 0.0)
    (odd : exponent retry % 2 = 1) : NonNegative (parts (b.grown retry)).neg := by
  have hgrown : b.initialDelay.seconds * power (-b.factor) (exponent retry) =
      -b.grown retry := by
    rw [power_neg_of_odd b.factor odd, Binary64.mul_neg]
    rfl
  rw [← parts_neg, ← hgrown]
  exact nonNegative_mul b.initialDelay.nonNegative_seconds
    (nonNegative_power (nonNegative_neg_of_lt negative) _)

/-- With an even exponent the sign of the factor does not matter. -/
theorem baseDelay_unsigned (b : Backoff) {retry : UInt32} (even : exponent retry % 2 = 0) :
    b.unsigned.baseDelay retry = b.baseDelay retry := by
  have hgrown : b.unsigned.grown retry = b.grown retry :=
    congrArg (b.initialDelay.seconds * ·) (power_neg_of_even b.factor even)
  rw [baseDelay_eq, hgrown]
  rfl

/-- What a bad factor leads to. It falls back to the cap if it is not a number, and with an
odd exponent if the growth does not vanish; with an even exponent a negative factor counts
like the positive one, so there is no fallback but the cap that this one has reached. -/
theorem bad_factor_fallback (b : Backoff) (retry : UInt32) (secs : UInt64)
    (bad : b.factor.isNaN = true ∨ b.factor < 0.0) (later : 1 ≤ retry)
    (whole : b.maxDelay = .ofSecs secs) (small : secs.toNat < 2 ^ 53) :
    b.baseDelay retry =
        (if b.factor.isNaN then b.maxDelay
          else if exponent retry % 2 = 0 then b.unsigned.baseDelay retry
          else if b.grown retry == 0.0 then .ofSecs 0 else b.maxDelay) ∧
      (b.baseDelay retry = b.maxDelay ↔ b.factor.isNaN = true ∨
        exponent retry % 2 = 0 ∧ b.unsigned.baseDelay retry = b.maxDelay ∨
        exponent retry % 2 = 1 ∧ (b.grown retry == 0.0 → secs = 0)) := by
  by_cases nan : b.factor.isNaN = true
  · have hcap := baseDelay_of_nan_factor nan later whole small
    rw [if_pos nan]
    exact ⟨hcap, fun _ => Or.inl nan, fun _ => hcap⟩
  · have negative := bad.resolve_left nan
    rw [if_neg nan]
    by_cases even : exponent retry % 2 = 0
    · rw [if_pos even, ← baseDelay_unsigned b even]
      refine ⟨rfl, fun h => Or.inr (Or.inl ⟨even, h⟩), ?_⟩
      rintro (h | ⟨-, h⟩ | ⟨odd, -⟩)
      · exact absurd h nan
      · exact h
      · omega
    · have odd : exponent retry % 2 = 1 := by omega
      have hdelay := baseDelay_of_neg (nonNegative_neg_grown negative odd) whole small
      rw [if_neg even]
      refine ⟨hdelay, ?_⟩
      rw [hdelay]
      constructor
      · intro h
        refine Or.inr (Or.inr ⟨odd, fun zero => ?_⟩)
        rw [if_pos zero, whole] at h
        exact Duration.ofSecs_inj h.symm
      · rintro (h | ⟨h, -⟩ | ⟨-, h⟩)
        · exact absurd h nan
        · exact absurd h even
        · split
          · next zero => rw [whole, h zero]
          · rfl

/-- With an exponent of one the growth is below zero and makes room for the cap. -/
theorem negative_factor_first :
    (⟨.ofSecs 1, .ofSecs 60, -3.0⟩ : Backoff).baseDelay 1 = .ofSecs 60 :=
  (bad_factor_fallback ⟨.ofSecs 1, .ofSecs 60, -3.0⟩ 1 60 (Or.inr (by decide +kernel)) (by decide)
    rfl (by decide)).2.mpr
    (Or.inr (Or.inr ⟨by decide, fun zero => absurd zero (by decide +kernel)⟩))

/-- Minus three squared is nine, so the next retry waits for nine seconds and not for a
minute. -/
theorem negative_factor_squared :
    (⟨.ofSecs 1, .ofSecs 60, -3.0⟩ : Backoff).factor < 0.0 ∧
      (⟨.ofSecs 1, .ofSecs 60, -3.0⟩ : Backoff).baseDelay 2 = .ofSecs 9 ∧
      (⟨.ofSecs 1, .ofSecs 60, -3.0⟩ : Backoff).baseDelay 2 ≠ .ofSecs 60 := by
  decide +kernel

end VoiceGateway.Backoff
