import VoiceGateway.Proofs.Number.Parts

/-!
# Rounding

The outcome of an operation is rounded to 53 binary digits, or to fewer where that would
take an exponent below the least one. Two things are needed about it. With digits to spare
the result is spelled as a double spells it, so packing does not change it. And rounding
never passes a power of two: what is at most `2 ^ k` is rounded to at most `2 ^ k`.

> `roundWithAccuracy_spec`: the digits that are kept, and the carry.
> `roundWithAccuracy_of_zeros`: a tight number is not rounded, whatever zeros follow.
> `rounded_roundWithAccuracy`: the result of rounding is tight.
> `upTo_roundWithAccuracy`: rounding does not pass a power of two.
-/

namespace VoiceGateway.Binary64

open Float.Model Float.Model.UnpackedFloat

variable {s : Sign} {m : Nat} {e k t : Int} {a : Accuracy} {r : Nat} {u : UnpackedFloat}

/-! ## Digits -/

theorem targetExponent_eq (n : Int) : Format.binary64.targetExponent n = max (n - 53) (-1074) := rfl

theorem log2_shiftLeft (pos : 0 < m) (n : Nat) : (m <<< n).log2 = m.log2 + n := by
  rw [Nat.shiftLeft_eq, Nat.log2_eq_iff (Nat.ne_of_gt (Nat.mul_pos pos (Nat.two_pow_pos n)))]
  have hlow := Nat.log2_self_le (Nat.ne_of_gt pos)
  have hhigh := @Nat.lt_log2_self m
  rw [Nat.add_right_comm, Nat.pow_add _ _ n, Nat.pow_add _ _ n]
  exact ⟨Nat.mul_le_mul_right _ hlow, Nat.mul_lt_mul_of_pos_right hhigh (Nat.two_pow_pos n)⟩

/-- The number of digits that rounding drops. -/
def dropped (m : Nat) (e : Int) : Nat := (max (m.log2 + e - 52) (-1074) - e).toNat

/-- The digits that rounding keeps. -/
def kept (m : Nat) (e : Int) (a : Accuracy) : Nat :=
  (ExtendedMantissa.ofMantissaAndAccuracy m a >>> dropped m e).roundedMantissa

theorem mantissa_shiftRight (x : ExtendedMantissa) (n : Nat) :
    (x >>> n).mantissa = x.mantissa / 2 ^ n := by
  induction n with
  | zero => exact (Nat.div_one _).symm
  | succ n ih =>
    show (x >>> n).mantissa / 2 = _
    rw [ih, Nat.div_div_eq_div_mul, Nat.pow_succ]

/-- Zeros can be dropped without a loss. -/
theorem shiftRight_exact (m n : Nat) :
    ExtendedMantissa.ofMantissaAndAccuracy (m * 2 ^ n) .exact >>> n =
      ExtendedMantissa.ofMantissaAndAccuracy m .exact := by
  induction n generalizing m with
  | zero => rw [Nat.pow_zero, Nat.mul_one]; rfl
  | succ n ih =>
    have h := ih (m * 2)
    rw [Nat.mul_assoc, ← Nat.pow_succ'] at h
    show ExtendedMantissa.shiftRightOne
      (ExtendedMantissa.ofMantissaAndAccuracy (m * 2 ^ (n + 1)) .exact >>> n) = _
    rw [h]
    unfold ExtendedMantissa.shiftRightOne ExtendedMantissa.ofMantissaAndAccuracy
    simp

theorem mantissa_ofMantissaAndAccuracy (m : Nat) (a : Accuracy) :
    (ExtendedMantissa.ofMantissaAndAccuracy m a).mantissa = m := by
  cases a with
  | exact => rfl
  | inexact o => cases o <;> rfl

theorem roundedMantissa_bounds (x : ExtendedMantissa) :
    x.mantissa ≤ x.roundedMantissa ∧ x.roundedMantissa ≤ x.mantissa + 1 := by
  unfold ExtendedMantissa.roundedMantissa Accuracy.roundToNearestEven
  split <;> omega

theorem kept_bounds (m : Nat) (e : Int) (a : Accuracy) :
    m / 2 ^ dropped m e ≤ kept m e a ∧ kept m e a ≤ m / 2 ^ dropped m e + 1 := by
  have h := roundedMantissa_bounds (ExtendedMantissa.ofMantissaAndAccuracy m a >>> dropped m e)
  rw [mantissa_shiftRight, mantissa_ofMantissaAndAccuracy] at h
  exact h

/-- Zeros are dropped without a loss. -/
theorem kept_exact {n : Nat} (h : m = n * 2 ^ dropped m e) : kept m e .exact = n := by
  unfold kept
  generalize dropped m e = d at h ⊢
  rw [h, shiftRight_exact]
  rfl

theorem log2_le_dropped (m : Nat) (e : Int) :
    m.log2 ≤ 52 + dropped m e ∧ -1074 ≤ e + dropped m e := by
  unfold dropped
  omega

/-- Rounding does not pass a number of as many digits. With more behind the digits that are
kept, what is rounded must be below. -/
theorem kept_le_of_le {n : Nat} (h : m ≤ n * 2 ^ dropped m e)
    (below : a = .exact ∨ m < n * 2 ^ dropped m e) : kept m e a ≤ n := by
  have hbounds := (kept_bounds m e a).2
  rcases Nat.lt_or_ge (m / 2 ^ dropped m e) n with hlt | hge
  · omega
  · -- It is that number, so nothing is rounded.
    have hm : m = n * 2 ^ dropped m e :=
      Nat.le_antisymm h ((Nat.le_div_iff_mul_le (Nat.two_pow_pos _)).mp hge)
    have hexact : a = .exact := below.resolve_right (by omega)
    exact Nat.le_of_eq (by rw [hexact, kept_exact hm])

theorem le_kept_of_le {n : Nat} (h : n * 2 ^ dropped m e ≤ m) : n ≤ kept m e a :=
  Nat.le_trans ((Nat.le_div_iff_mul_le (Nat.two_pow_pos _)).mpr h) (kept_bounds m e a).1

theorem kept_le (m : Nat) (e : Int) (a : Accuracy) : kept m e a ≤ 2 ^ 53 := by
  have hfew : m / 2 ^ dropped m e < 2 ^ 53 := by
    rw [Nat.div_lt_iff_lt_mul (Nat.two_pow_pos _), ← Nat.pow_add]
    have hlog := (log2_le_dropped m e).1
    exact Nat.lt_of_lt_of_le Nat.lt_log2_self (Nat.pow_le_pow_right (by decide) (by omega))
  have := (kept_bounds m e a).2
  omega

/-! ## The result -/

/-- What becomes of the digits that are kept: they may be none, and there may be a carry. -/
inductive RoundsTo (s : Sign) (r : Nat) (t : Int) : UnpackedFloat → Prop
  | none (zero : r = 0) : RoundsTo s r t (.zero s)
  | kept (pos : 0 < r) (lt : r < 2 ^ 53) : RoundsTo s r t (.finite s r t pos)
  | carried (full : r = 2 ^ 53) (pos : 0 < 2 ^ 52) : RoundsTo s r t (.finite s (2 ^ 52) (t + 1) pos)

/-- Digits that fit are not shifted again. -/
theorem shiftToTargetExponent_of_lt (lt : r < 2 ^ 53) (least : -1074 ≤ t) :
    shiftToTargetExponent Format.binary64 r t .exact = (⟨r, false, false⟩, t) := by
  have hlog : r.log2 ≤ 52 := by
    by_cases hr : r = 0
    · rw [hr]
      decide
    · exact Nat.le_of_lt_succ ((Nat.log2_lt hr).mpr lt)
  have hzero : (Format.binary64.targetExponent (totalExponent r t) - t).toNat = 0 := by
    rw [targetExponent_eq]
    unfold totalExponent
    omega
  unfold shiftToTargetExponent shiftToExponent
  dsimp only
  rw [hzero]
  exact congrArg (Prod.mk _) (Int.add_zero t)

theorem shiftToTargetExponent_carry (least : -1074 ≤ t) :
    shiftToTargetExponent Format.binary64 (2 ^ 53) t .exact = (⟨2 ^ 52, false, false⟩, t + 1) := by
  have hone : (Format.binary64.targetExponent (totalExponent (2 ^ 53) t) - t).toNat = 1 := by
    rw [targetExponent_eq]
    unfold totalExponent
    rw [Nat.log2_two_pow]
    omega
  unfold shiftToTargetExponent shiftToExponent
  dsimp only
  rw [hone]
  rfl

theorem roundWithAccuracy_spec (s : Sign) (m : Nat) (e : Int) (a : Accuracy) :
    RoundsTo s (kept m e a) (e + dropped m e) (roundWithAccuracy Format.binary64 s m e a) := by
  have hfirst : shiftToTargetExponent Format.binary64 m e a =
      (ExtendedMantissa.ofMantissaAndAccuracy m a >>> dropped m e, e + dropped m e) := by
    have hd : (Format.binary64.targetExponent (totalExponent m e) - e).toNat = dropped m e := by
      rw [targetExponent_eq]
      unfold totalExponent dropped
      omega
    unfold shiftToTargetExponent shiftToExponent
    dsimp only
    rw [hd]
  have hle := kept_le m e a
  have hleast := (log2_le_dropped m e).2
  have hsecond : roundWithAccuracy Format.binary64 s m e a =
      let x := shiftToTargetExponent Format.binary64 (kept m e a) (e + dropped m e) .exact
      if h : x.1.mantissa = 0 then .zero s
      else .finite s x.1.mantissa x.2 (Nat.pos_of_ne_zero h) := by
    unfold roundWithAccuracy
    rw [hfirst]
    rfl
  rw [hsecond]
  by_cases hcarry : kept m e a = 2 ^ 53
  · rw [hcarry, shiftToTargetExponent_carry hleast]
    exact .carried rfl (by decide)
  · rw [shiftToTargetExponent_of_lt (by omega) hleast]
    by_cases hzero : kept m e a = 0
    · rw [hzero]
      exact .none rfl
    · dsimp only
      rw [dif_neg hzero]
      exact .kept (Nat.pos_of_ne_zero hzero) (by omega)

/-- A tight number with zeros behind its digits loses these and nothing else. -/
theorem roundWithAccuracy_of_zeros {n : Nat} (tight : Tight m (e + n)) (pos : 0 < m) :
    roundWithAccuracy Format.binary64 s (m <<< n) e .exact = .finite s m (e + n) pos := by
  have hlog : m.log2 < 53 := (Nat.log2_lt (by omega)).mpr tight.lt
  have hdropped : dropped (m <<< n) e = n := by
    have hleast := tight.least
    have hfull : 52 ≤ m.log2 ∨ e + n = -1074 :=
      tight.full.imp_left (Nat.le_log2 (Nat.ne_of_gt pos)).mpr
    unfold dropped
    rw [log2_shiftLeft pos]
    omega
  have hkept : kept (m <<< n) e .exact = m := by
    refine kept_exact ?_
    rw [hdropped, Nat.shiftLeft_eq]
  have hspec := roundWithAccuracy_spec s (m <<< n) e .exact
  rw [hkept, hdropped] at hspec
  generalize roundWithAccuracy Format.binary64 s (m <<< n) e .exact = u at hspec ⊢
  cases hspec with
  | none zero => omega
  | kept pos lt => rfl
  | carried full pos =>
    have := tight.lt
    omega

/-- What has digits to spare is rounded to a tight number. -/
theorem rounded_roundWithAccuracy (spare : 52 ≤ m.log2 ∨ e ≤ -1074) :
    Rounded (roundWithAccuracy Format.binary64 s m e a) := by
  have hleast := (log2_le_dropped m e).2
  have hfull : 2 ^ 52 ≤ kept m e a ∨ e + dropped m e = -1074 := by
    by_cases hlow : e + dropped m e = -1074
    · exact Or.inr hlow
    · left
      have hm : m ≠ 0 := by
        intro hm
        rw [hm, show Nat.log2 0 = 0 from by decide] at spare
        unfold dropped at hlow
        rw [hm, show Nat.log2 0 = 0 from by decide] at hlow
        omega
      have hlog : 52 + dropped m e ≤ m.log2 := by
        unfold dropped at hlow ⊢
        omega
      refine le_kept_of_le ?_
      rw [← Nat.pow_add]
      exact (Nat.le_log2 hm).mp hlog
  have hspec := roundWithAccuracy_spec s m e a
  generalize roundWithAccuracy Format.binary64 s m e a = u at hspec ⊢
  cases hspec with
  | none zero => exact .zero s
  | kept pos lt => exact .finite ⟨lt, hleast, hfull⟩
  | carried full pos => exact .finite ⟨by decide, by omega, Or.inl (Nat.le_refl _)⟩

/-! ## Powers of two -/

/-- A number `m · 2 ^ e` of at most `2 ^ k`. -/
structure AtMost (k : Int) (m : Nat) (e : Int) : Prop where
  exponent : e ≤ k
  digits : m ≤ 2 ^ (k - e).toNat

/-- A number from zero to `2 ^ k`. -/
inductive UpTo (k : Int) : UnpackedFloat → Prop
  | zero (s : Sign) : UpTo k (.zero s)
  | finite {m : Nat} {e : Int} {pos : 0 < m} (atMost : AtMost k m e) :
      UpTo k (.finite .positive m e pos)

theorem AtMost.log2_le (h : AtMost k m e) : m.log2 + e ≤ k := by
  have hk := h.exponent
  by_cases hm : m = 0
  · rw [hm, show Nat.log2 0 = 0 from by decide]
    omega
  · have hlog := Nat.le_trans (Nat.log2_self_le hm) h.digits
    have := (Nat.pow_le_pow_iff_right (by decide)).mp hlog
    omega

/-- The digits that are kept are not beyond a power of two that the number is not beyond.
Digits that follow count as well: with some, the number must be below. -/
theorem AtMost.kept (h : AtMost k m e) (least : -1074 ≤ k)
    (below : a = .exact ∨ m < 2 ^ (k - e).toNat) : AtMost k (kept m e a) (e + dropped m e) := by
  have hlog := h.log2_le
  have hk := h.exponent
  have hexp : e + dropped m e ≤ k := by
    unfold dropped
    omega
  refine ⟨hexp, ?_⟩
  obtain ⟨n, hn⟩ : ∃ n, (k - (e + dropped m e)).toNat = n := ⟨_, rfl⟩
  have hpow : 2 ^ (k - e).toNat = 2 ^ n * 2 ^ dropped m e := by
    rw [← Nat.pow_add]
    congr 1
    omega
  have hdigits := h.digits
  rw [hpow] at hdigits below
  rw [hn]
  exact kept_le_of_le hdigits below

/-- Rounding does not pass a power of two. -/
theorem upTo_roundWithAccuracy (h : AtMost k m e) (least : -1074 ≤ k)
    (below : a = .exact ∨ m < 2 ^ (k - e).toNat) :
    UpTo k (roundWithAccuracy Format.binary64 .positive m e a) := by
  have hkept := h.kept least below
  have hspec := roundWithAccuracy_spec .positive m e a
  generalize roundWithAccuracy Format.binary64 .positive m e a = u at hspec ⊢
  cases hspec with
  | none zero => exact .zero _
  | kept pos lt => exact .finite hkept
  | carried full pos =>
    obtain ⟨hexp, hdigits⟩ := hkept
    rw [full] at hdigits
    have hroom := (Nat.pow_le_pow_iff_right (by decide)).mp hdigits
    exact .finite ⟨by omega, Nat.pow_le_pow_right (by decide) (by omega)⟩

end VoiceGateway.Binary64
