import VoiceGateway.Proofs.Number.Signs

/-!
# Bounds by powers of two

Sums, products and quotients of doubles that are between zero and powers of two are so as
well, and therefore never run over or become no number at all.

> `upTo_mul`, `upTo_add`, `upTo_div`, `upTo_toFloat`: the bounds of the results.
> `upTo_of_not_lt`: what is not above a double that has a bound has the same bound.
> `toRat_of_upTo`: what a bound says about the value of a double.
> `parts_toFloat_of_lt`: a natural number of few digits is converted exactly.
-/

namespace VoiceGateway

/-- The value of a finite double. -/
def Dyadic.toRat (d : Dyadic) : ℚ :=
  (if d.negative then -1 else 1) * d.significand * 2 ^ d.exponent

namespace Binary64

open Float.Model Float.Model.UnpackedFloat

variable {x y : Float} {u v : UnpackedFloat} {s : Sign} {m m' : Nat} {e e' j k t : Int}

theorem AtMost.mono (h : AtMost j m e) (le : j ≤ k) : AtMost k m e :=
  ⟨Int.le_trans h.exponent le,
    Nat.le_trans h.digits (Nat.pow_le_pow_right (by decide) (by omega))⟩

theorem UpTo.mono (h : UpTo j u) (le : j ≤ k) : UpTo k u := by
  cases h with
  | zero s => exact .zero s
  | finite atMost => exact .finite (atMost.mono le)

theorem UpTo.nonNegative (h : UpTo k u) : NonNegative u := by
  cases h with
  | zero s => exact .zero s
  | finite atMost => exact .finite

/-- Packing keeps the bound. -/
theorem UpTo.repacked (h : UpTo k u) (hu : Rounded u) (small : k ≤ 1023) :
    UpTo k (repacked u) := by
  cases h with
  | zero s => rw [repacked_zero]; exact .zero s
  | @finite m e pos atMost =>
    cases hu with
    | finite tight =>
      have top : e ≤ 971 := by
        rcases tight.full with hfull | hlow
        · have := (Nat.pow_le_pow_iff_right (by decide)).mp (Nat.le_trans hfull atMost.digits)
          omega
        · omega
      rw [repacked_finite tight top]
      exact .finite atMost

/-- A double is a number, and this is its value. -/
def HasValue (x : Float) (q : ℚ) : Prop := ∃ d, ofFloat x = .finite d ∧ d.toRat = q

theorem hasValue_of_zero (h : parts x = .zero s) : HasValue x 0 := by
  have hx := denotes_parts x
  unfold HasValue
  rw [h] at hx
  generalize ofFloat x = v at hx ⊢
  cases hx
  refine ⟨_, rfl, ?_⟩
  unfold Dyadic.toRat
  simp

theorem hasValue_of_positive {pos : 0 < m} (h : parts x = .finite .positive m e pos) :
    HasValue x (m * 2 ^ e) := by
  have hx := denotes_parts x
  unfold HasValue
  rw [h] at hx
  generalize ofFloat x = v at hx ⊢
  cases hx
  exact ⟨_, rfl, congrArg (· * (2 : ℚ) ^ e) (one_mul (m : ℚ))⟩

/-- A double that has a bound is a number, and its value is within the bound. -/
theorem toRat_of_upTo (h : UpTo k (parts x)) :
    ∃ d, ofFloat x = .finite d ∧ 0 ≤ d.toRat ∧ d.toRat ≤ 2 ^ k := by
  cases hparts : parts x with
  | notANumber | infinity s => rw [hparts] at h; cases h
  | zero s =>
    obtain ⟨d, hd, hvalue⟩ := hasValue_of_zero hparts
    exact ⟨d, hd, hvalue.ge, hvalue.trans_le (zpow_nonneg (by decide) k)⟩
  | finite s m e pos =>
    rw [hparts] at h
    cases h with
    | finite atMost =>
      obtain ⟨d, hd, hvalue⟩ := hasValue_of_positive hparts
      have hdigits : (m : ℚ) ≤ 2 ^ (k - e) := by
        rw [← Int.toNat_of_nonneg (a := k - e) (by have := atMost.exponent; omega),
          zpow_natCast]
        exact_mod_cast atMost.digits
      refine ⟨d, hd, hvalue.ge.trans' ?_, hvalue.trans_le ?_⟩
      · exact mul_nonneg (Nat.cast_nonneg m) (zpow_nonneg (by decide) e)
      · calc (m : ℚ) * 2 ^ e ≤ 2 ^ (k - e) * 2 ^ e :=
              mul_le_mul_of_nonneg_right hdigits (zpow_nonneg (by decide) e)
          _ = 2 ^ k := by rw [← zpow_add₀ (by decide), Int.sub_add_cancel]

/-! ## Products -/

theorem AtMost.mul (h : AtMost j m e) (h' : AtMost k m' e') : AtMost (j + k) (m * m') (e + e') := by
  obtain ⟨hexp, hdigits⟩ := h
  obtain ⟨hexp', hdigits'⟩ := h'
  refine ⟨by omega, Nat.le_trans (Nat.mul_le_mul hdigits hdigits') (Nat.le_of_eq ?_)⟩
  rw [← Nat.pow_add]
  congr 1
  omega

theorem UpTo.mul (hu : UpTo j u) (hv : UpTo k v) (least : -1074 ≤ j + k) :
    UpTo (j + k) (.mul .binary64 u v) := by
  cases hu with
  | zero s =>
    cases hv with
    | zero | finite => exact .zero _
  | finite atMost =>
    cases hv with
    | zero => exact .zero _
    | finite atMost' => exact upTo_roundWithAccuracy (atMost.mul atMost') least (Or.inl rfl)

theorem upTo_mul (hx : UpTo j (parts x)) (hy : UpTo k (parts y)) (least : -1074 ≤ j + k)
    (small : j + k ≤ 1023) : UpTo (j + k) (parts (x * y)) :=
  (hx.mul hy least).repacked (rounded_mul (rounded_parts x) (rounded_parts y)) small

/-! ## Whole numbers and sums -/

/-- The same number with a lower exponent. -/
theorem AtMost.shift (h : AtMost k m e) (le : t ≤ e) : AtMost k (m <<< (e - t).toNat) t := by
  obtain ⟨hexp, hdigits⟩ := h
  refine ⟨by omega, ?_⟩
  have hpow : 2 ^ (k - t).toNat = 2 ^ (k - e).toNat * 2 ^ (e - t).toNat := by
    rw [← Nat.pow_add]
    congr 1
    omega
  rw [Nat.shiftLeft_eq, hpow]
  exact Nat.mul_le_mul_right _ hdigits

/-- Digits are added until there are enough, or until the least exponent is reached. -/
theorem round_eq (s : Sign) (m : Nat) (e : Int) (pos : 0 < m) :
    ∃ t, UnpackedFloat.round .binary64 s m e =
        roundWithAccuracy .binary64 s (m <<< (e - t).toNat) t .exact ∧
      t ≤ e ∧ (52 ≤ (m <<< (e - t).toNat).log2 ∨ t ≤ -1074) := by
  have htarget : Format.binary64.targetExponent (totalExponent m e) =
      max (m.log2 + e - 52) (-1074) := by
    rw [targetExponent_eq]
    unfold totalExponent
    omega
  unfold UnpackedFloat.round decreaseExponent
  dsimp only
  rw [htarget]
  generalize hshift : (e - max (m.log2 + e - 52) (-1074)).toNat = n
  refine ⟨e - n, ?_, by omega, ?_⟩
  · rw [show (e - (e - (n : Int))).toNat = n by omega]
  · rw [show (e - (e - (n : Int))).toNat = n by omega, log2_shiftLeft pos]
    omega

theorem rounded_round (s : Sign) (m : Nat) (e : Int) (pos : 0 < m) :
    Rounded (.round .binary64 s m e) := by
  obtain ⟨t, heq, -, hspare⟩ := round_eq s m e pos
  rw [heq]
  exact rounded_roundWithAccuracy hspare

theorem AtMost.round (h : AtMost k m e) (pos : 0 < m) (least : -1074 ≤ k) :
    UpTo k (.round .binary64 .positive m e) := by
  obtain ⟨t, heq, hle, -⟩ := round_eq .positive m e pos
  rw [heq]
  exact upTo_roundWithAccuracy (h.shift hle) least (Or.inl rfl)

/-- A whole number of units that is not zero. -/
theorem normalize_eq (pos : 0 < m) (e : Int) :
    UnpackedFloat.normalize .binary64 m e .positive = .round .binary64 .positive m e := by
  unfold UnpackedFloat.normalize
  have hgt : compare (m : Int) 0 = .gt := by
    rw [Int.compare_eq_gt]
    omega
  rw [hgt, Int.toNat_natCast]

/-- Numbers are added with the lesser of their exponents. -/
theorem add_eq (pos : 0 < m) (pos' : 0 < m') :
    UnpackedFloat.add .binary64 (.finite .positive m e pos) (.finite .positive m' e' pos') =
      .round .binary64 .positive (m <<< (e - min e e').toNat + m' <<< (e' - min e e').toNat)
        (min e e') := by
  exact normalize_eq (Nat.add_pos_left (Nat.shiftLeft_pos_iff.mpr pos) _) (min e e')

theorem UpTo.add (hu : UpTo k u) (hv : UpTo k v) (ru : Rounded u) (rv : Rounded v)
    (least : -1074 ≤ k) :
    UpTo (k + 1) (.add .binary64 u v) ∧ Rounded (.add .binary64 u v) := by
  cases hu with
  | zero s =>
    cases hv with
    | zero s' =>
      show UpTo (k + 1) (if _ then _ else _) ∧ Rounded (if _ then _ else _)
      split
      · exact ⟨.zero _, .zero _⟩
      · exact ⟨.zero _, .zero _⟩
    | finite atMost => exact ⟨.finite (atMost.mono (by omega)), rv⟩
  | @finite m e pos atMost =>
    cases hv with
    | zero s' => exact ⟨.finite (atMost.mono (by omega)), ru⟩
    | @finite m' e' pos' atMost' =>
      have h := atMost.shift (Int.min_le_left e e')
      have h' := atMost'.shift (Int.min_le_right e e')
      have hpos : 0 < m <<< (e - min e e').toNat := Nat.shiftLeft_pos_iff.mpr pos
      rw [add_eq pos pos']
      generalize m <<< (e - min e e').toNat = a at h hpos
      generalize m' <<< (e' - min e e').toNat = b at h'
      generalize min e e' = t at h h'
      have hboth : AtMost (k + 1) (a + b) t := by
        have hexp := h.exponent
        refine ⟨by omega, Nat.le_trans (Nat.add_le_add h.digits h'.digits) (Nat.le_of_eq ?_)⟩
        rw [show (k + 1 - t).toNat = (k - t).toNat + 1 by omega, Nat.pow_succ]
        omega
      exact ⟨hboth.round (by omega) (by omega), rounded_round _ _ _ (by omega)⟩

theorem upTo_add (hx : UpTo k (parts x)) (hy : UpTo k (parts y)) (least : -1074 ≤ k)
    (small : k + 1 ≤ 1023) : UpTo (k + 1) (parts (x + y)) := by
  obtain ⟨hbound, hrounded⟩ := hx.add hy (rounded_parts x) (rounded_parts y) least
  exact hbound.repacked hrounded small

theorem upTo_toFloat {n : UInt64} {k : Nat} (h : n.toNat ≤ 2 ^ k) (small : k ≤ 1023) :
    UpTo k (parts n.toFloat) := by
  rw [parts_toFloat]
  have heq : UnpackedFloat.ofUInt64 .binary64 n =
      .normalize .binary64 (n.toNat : Int) 0 .positive := rfl
  rw [heq]
  by_cases hzero : n.toNat = 0
  · rw [hzero]
    exact UpTo.repacked (.zero .positive) (.zero .positive) (by omega)
  · have hatMost : AtMost k n.toNat 0 := by
      refine ⟨by omega, ?_⟩
      rw [Int.sub_zero, Int.toNat_natCast]
      exact h
    rw [normalize_eq (by omega)]
    exact (hatMost.round (by omega) (by omega)).repacked (rounded_round _ _ _ (by omega)) (by omega)

/-! ## Quotients -/

/-- A number `m · 2 ^ e` of `2 ^ j` or more. -/
structure AtLeast (j : Int) (m : Nat) (e : Int) : Prop where
  exponent : e ≤ j
  digits : 2 ^ (j - e).toNat ≤ m

theorem AtLeast.le_log2 (h : AtLeast j m e) : j ≤ m.log2 + e := by
  have hexp := h.exponent
  have hm : m ≠ 0 := Nat.ne_of_gt (Nat.lt_of_lt_of_le (Nat.two_pow_pos _) h.digits)
  have := (Nat.le_log2 hm).mpr h.digits
  omega

/-- How many digits a quotient has at least. -/
theorem le_log2_div {n : Nat} (h : m'.log2 + n < m.log2) (pos' : 0 < m') : n ≤ (m / m').log2 := by
  have hm : m ≠ 0 := by
    intro hm
    rw [hm, show Nat.log2 0 = 0 from by decide] at h
    omega
  have hlt : 2 ^ n * m' ≤ m := calc
    2 ^ n * m' ≤ 2 ^ n * 2 ^ (m'.log2 + 1) := Nat.mul_le_mul_left _ (Nat.le_of_lt Nat.lt_log2_self)
    _ = 2 ^ (n + (m'.log2 + 1)) := (Nat.pow_add 2 n _).symm
    _ ≤ 2 ^ m.log2 := Nat.pow_le_pow_right (by decide) (by omega)
    _ ≤ m := Nat.log2_self_le hm
  have hle : 2 ^ n ≤ m / m' := (Nat.le_div_iff_mul_le pos').mpr hlt
  exact (Nat.le_log2 (Nat.ne_of_gt (Nat.lt_of_lt_of_le (Nat.two_pow_pos n) hle))).mpr hle

/-- The exponent that a quotient gets, and the digits of the numerator that it takes. -/
theorem div_eq (pos : 0 < m) (e : Int) (pos' : 0 < m') (e' : Int) :
    ∃ t, UnpackedFloat.div .binary64 (.finite .positive m e pos) (.finite .positive m' e' pos') =
        roundWithAccuracy .binary64 .positive (m <<< (e - e' - t).toNat / m') t
          (accuracyOfFraction (m <<< (e - e' - t).toNat % m') m') ∧
      t ≤ e - e' ∧ t ≤ max ((m.log2 : Int) + e - (m'.log2 + e') - 53) (-1074) ∧
      (m'.log2 + 52 < (m <<< (e - e' - t).toNat).log2 ∨ t ≤ -1074) := by
  have htarget : Format.binary64.targetExponent (totalExponent m e - totalExponent m' e') =
      max ((m.log2 : Int) + e - (m'.log2 + e') - 53) (-1074) := by
    rw [targetExponent_eq]
    unfold totalExponent
    omega
  have hparts : UnpackedFloat.div .binary64 (.finite .positive m e pos)
      (.finite .positive m' e' pos') = roundWithAccuracy .binary64 .positive
        (divCore .binary64 m e m' e').1 (divCore .binary64 m e m' e').2.1
        (divCore .binary64 m e m' e').2.2 := rfl
  refine ⟨min (e - e') (max ((m.log2 : Int) + e - (m'.log2 + e') - 53) (-1074)), ?_,
    Int.min_le_left _ _, Int.min_le_right _ _, ?_⟩
  · rw [hparts]
    unfold divCore
    dsimp only
    rw [htarget]
  · rw [log2_shiftLeft pos]
    omega

/-- The numerator is at most the bound times the denominator. -/
theorem AtMost.shift_le (h : AtMost k m e) (h' : AtLeast j m' e') (le : t ≤ e - e')
    (low : t ≤ k - j) : m <<< (e - e' - t).toNat ≤ 2 ^ (k - j - t).toNat * m' := by
  have hk := h.exponent
  have hj := h'.exponent
  rw [Nat.shiftLeft_eq]
  calc m * 2 ^ (e - e' - t).toNat
      ≤ 2 ^ (k - e).toNat * 2 ^ (e - e' - t).toNat := Nat.mul_le_mul_right _ h.digits
    _ = 2 ^ (k - j - t).toNat * 2 ^ (j - e').toNat := by
        rw [← Nat.pow_add, ← Nat.pow_add]
        congr 1
        omega
    _ ≤ 2 ^ (k - j - t).toNat * m' := Nat.mul_le_mul_left _ h'.digits

/-- A quotient is within its bound, and if it reaches the bound nothing is left over. -/
theorem div_le_of_le_mul {n b : Nat} (h : n ≤ b * m') (pos' : 0 < m') :
    n / m' ≤ b ∧ (accuracyOfFraction (n % m') m' = .exact ∨ n / m' < b) := by
  have hquotient : n / m' ≤ b := by
    rw [Nat.div_le_iff_le_mul_add_pred pos', Nat.mul_comm]
    omega
  refine ⟨hquotient, ?_⟩
  rcases Nat.lt_or_ge (n / m') b with hlt | hge
  · exact Or.inr hlt
  · left
    have hsame : n / m' = b := Nat.le_antisymm hquotient hge
    have hrest := Nat.div_add_mod n m'
    rw [hsame, Nat.mul_comm] at hrest
    rw [show n % m' = 0 by omega]
    rfl

theorem UpTo.div (hu : UpTo k u) (h' : AtLeast j m' e') (pos' : 0 < m') (least : -1074 ≤ k - j) :
    UpTo (k - j) (.div .binary64 u (.finite .positive m' e' pos')) ∧
      Rounded (.div .binary64 u (.finite .positive m' e' pos')) := by
  cases hu with
  | zero s => exact ⟨.zero _, .zero _⟩
  | @finite m e pos atMost =>
    obtain ⟨t, heq, hle, hlow, hspare⟩ := div_eq pos e pos' e'
    have hexp : t ≤ k - j := by
      have := atMost.log2_le
      have := h'.le_log2
      omega
    obtain ⟨hquotient, hbelow⟩ := div_le_of_le_mul (atMost.shift_le h' hle hexp) pos'
    rw [heq]
    exact ⟨upTo_roundWithAccuracy ⟨hexp, hquotient⟩ least hbelow,
      rounded_roundWithAccuracy (hspare.imp_left fun h => le_log2_div h pos')⟩

/-- A quotient by a double whose least size is known. -/
theorem upTo_div (hx : UpTo k (parts x)) {pos' : 0 < m'}
    (hy : parts y = .finite .positive m' e' pos') (h' : AtLeast j m' e')
    (least : -1074 ≤ k - j) (small : k - j ≤ 1023) :
    UpTo (k - j) (parts (x / y)) := by
  rw [parts_div, hy]
  obtain ⟨hbound, hrounded⟩ := hx.div h' pos' least
  exact hbound.repacked hrounded small

/-! ## Comparison -/

theorem lt_iff_compare (x y : Float) :
    x < y ↔ UnpackedFloat.compare (parts x) (parts y) = some .lt := by
  have hmodel : x < y ↔ decide (x.toModel < y.toModel) = true := Iff.rfl
  have hparts : x.toModel < y.toModel ↔
      (UnpackedFloat.compare (parts x) (parts y) == some .lt) = true := Iff.rfl
  rw [hmodel, decide_eq_true_iff, hparts, beq_iff_eq]

theorem compare_finite (pos : 0 < m) (pos' : 0 < m') :
    UnpackedFloat.compare (.finite .positive m e pos) (.finite .positive m' e' pos') = some .lt ↔
      e < e' ∨ e = e' ∧ m < m' := by
  show some ((compare e e').then (compare m m')) = _ ↔ _
  rw [Option.some_inj, Ordering.then_eq_lt, Int.compare_eq_lt, Int.compare_eq_eq,
    Nat.compare_eq_lt]

/-- Of two tight numbers the one with the lesser exponent is the lesser one, so it has every
bound that the other one has. -/
theorem AtMost.of_exponent_lt (h : AtMost k m' e') (tight : Tight m e) (tight' : Tight m' e')
    (lt : e < e') : AtMost k m e := by
  have hexp := h.exponent
  have hleast := tight.least
  have hfull : 2 ^ 52 ≤ m' := tight'.full.resolve_right (by omega)
  have hroom := (Nat.pow_le_pow_iff_right (by decide)).mp (Nat.le_trans hfull h.digits)
  refine ⟨by omega, Nat.le_trans (Nat.le_of_lt tight.lt) ?_⟩
  exact Nat.pow_le_pow_right (by decide) (by omega)

/-- What is not above a double that has a bound has the same bound. -/
theorem upTo_of_not_lt (hy : UpTo k (parts y)) (hx : NonNegative (parts x))
    (number : parts x ≠ .notANumber) (h : ¬ y < x) : UpTo k (parts x) := by
  rw [lt_iff_compare] at h
  have hrounded := rounded_parts x
  have hrounded' := rounded_parts y
  generalize parts x = u at hx number h hrounded ⊢
  generalize parts y = v at hy h hrounded'
  cases hx with
  | nan => exact absurd rfl number
  | zero s => exact .zero s
  | infinity => cases hy <;> exact absurd rfl h
  | @finite m e pos =>
    cases hy with
    | zero s => exact absurd rfl h
    | @finite m' e' pos' atMost =>
      cases hrounded with
      | finite tight =>
        cases hrounded' with
        | finite tight' =>
          rw [compare_finite] at h
          rcases Int.lt_or_le e e' with hlt | hge
          · exact .finite (atMost.of_exponent_lt tight tight' hlt)
          · have heq : e = e' := by omega
            subst heq
            exact .finite ⟨atMost.exponent, Nat.le_trans (by omega) atMost.digits⟩

/-! ## Exact conversion -/

/-- A natural number of few digits is converted exactly: it is a multiple of the unit of its
double. -/
theorem parts_toFloat_of_lt {n : UInt64} (pos : 0 < n.toNat) (small : n.toNat < 2 ^ 53) :
    ∃ pos', parts n.toFloat =
      .finite .positive (n.toNat <<< (52 - n.toNat.log2)) ((n.toNat.log2 : Int) - 52) pos' := by
  have hlog : n.toNat.log2 < 53 := (Nat.log2_lt (by omega)).mpr small
  have hparts : parts n.toFloat = repacked (.normalize .binary64 (n.toNat : Int) 0 .positive) := rfl
  rw [hparts, normalize_eq pos]
  generalize n.toNat = n at pos small hlog ⊢
  have hpos : 0 < n <<< (52 - n.log2) := Nat.shiftLeft_pos_iff.mpr pos
  have hfull : (n <<< (52 - n.log2)).log2 = 52 := by
    rw [log2_shiftLeft pos]
    omega
  obtain ⟨hlow, hhigh⟩ := (Nat.log2_eq_iff (Nat.ne_of_gt hpos)).mp hfull
  have htight : Tight (n <<< (52 - n.log2)) ((n.log2 : Int) - 52) :=
    ⟨hhigh, by omega, Or.inl hlow⟩
  obtain ⟨t, hround, hle, hspare⟩ := round_eq .positive n 0 pos
  rw [log2_shiftLeft pos] at hspare
  have hexp : (n.log2 : Int) - 52 = t + ((n.log2 : Int) - 52 - t).toNat := by omega
  have hshift : n <<< (0 - t).toNat =
      n <<< (52 - n.log2) <<< ((n.log2 : Int) - 52 - t).toNat := by
    rw [← Nat.shiftLeft_add]
    congr 1
    omega
  refine ⟨hpos, ?_⟩
  rw [hexp] at htight ⊢
  rw [hround, hshift, roundWithAccuracy_of_zeros htight hpos, repacked_finite htight (by omega)]

end Binary64

end VoiceGateway
