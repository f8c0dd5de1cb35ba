import VoiceGateway.Proofs.Number.Rounding

/-!
# The sign of a product

A product of doubles has the sign that its factors give it, even where it is rounded to
zero or runs over, because rounding and packing are the same on either side of zero.

> `neg_mul`, `mul_neg`, `neg_mul_neg`: a sign can be taken out of a product.
> `mul_nan`, `nan_mul`: what is not a number stays so.
> `nonNegative_mul`: no product of factors that are not below zero is below zero.
-/

namespace VoiceGateway.Binary64

open Float.Model Float.Model.UnpackedFloat

variable {x y : Float} {u v : UnpackedFloat} {s s' : Sign} {m m' : Nat} {e e' j k t : Int}

/-! ## Operations on parts -/

theorem parts_mul (x y : Float) : parts (x * y) = repacked (.mul .binary64 (parts x) (parts y)) :=
  rfl

theorem parts_add (x y : Float) : parts (x + y) = repacked (.add .binary64 (parts x) (parts y)) :=
  rfl

theorem parts_div (x y : Float) : parts (x / y) = repacked (.div .binary64 (parts x) (parts y)) :=
  rfl

theorem parts_toFloat (n : UInt64) : parts n.toFloat = repacked (.ofUInt64 .binary64 n) := rfl

/-- Doubles of the same parts have the same products. -/
theorem mul_congr {x' y' : Float}
    (h : UnpackedFloat.mul .binary64 (parts x) (parts y) =
      .mul .binary64 (parts x') (parts y')) : x * y = x' * y' :=
  congrArg (fun u => Float.ofModel (Float.Model.pack u)) h

theorem pack_repacked (hu : Rounded u) : Float.Model.pack (repacked u) = Float.Model.pack u := by
  cases hu with
  | nan => rw [repacked_nan]
  | infinity s => rw [repacked_infinity]
  | zero s => rw [repacked_zero]
  | @finite s m e pos tight =>
    rcases Int.lt_or_le 971 e with beyond | top
    · rw [repacked_of_lt beyond]
      unfold Float.Model.pack UnpackedFloat.pack
      dsimp only
      congr 2
      refine (if_pos ?_).symm
      show 2048 ≤ (e + 1023 + 52).toNat + 1
      omega
    · rw [repacked_finite tight top]

/-- A product of tight numbers has digits to spare. -/
theorem Tight.mul (h : Tight m e) (h' : Tight m' e') (pos : 0 < m) (pos' : 0 < m') :
    52 ≤ (m * m').log2 ∨ e + e' ≤ -1074 := by
  have hm : m * m' ≠ 0 := Nat.ne_of_gt (Nat.mul_pos pos pos')
  rcases h.full with hfull | hlow
  · exact Or.inl ((Nat.le_log2 hm).mpr (Nat.le_trans hfull (Nat.le_mul_of_pos_right m pos')))
  · rcases h'.full with hfull | hlow'
    · exact Or.inl ((Nat.le_log2 hm).mpr (Nat.le_trans hfull (Nat.le_mul_of_pos_left m' pos)))
    · exact Or.inr (by omega)

theorem rounded_mul (hu : Rounded u) (hv : Rounded v) : Rounded (.mul .binary64 u v) := by
  cases hu with
  | nan => exact .nan
  | infinity s =>
    cases hv with
    | nan => exact .nan
    | infinity s' => exact .infinity _
    | zero s' => exact .nan
    | finite tight => exact .infinity _
  | zero s =>
    cases hv with
    | nan => exact .nan
    | infinity s' => exact .nan
    | zero s' => exact .zero _
    | finite tight => exact .zero _
  | @finite s m e pos tight =>
    cases hv with
    | nan => exact .nan
    | infinity s' => exact .infinity _
    | zero s' => exact .zero _
    | @finite s' m' e' pos' tight' =>
      exact rounded_roundWithAccuracy (tight.mul tight' pos pos')

/-! ## Signs -/

theorem Rounded.neg (hu : Rounded u) : Rounded u.neg := by
  cases hu with
  | nan => exact .nan
  | infinity s => exact .infinity _
  | zero s => exact .zero _
  | finite tight => exact .finite tight

/-- Packing goes by the digits and the exponent, whatever the sign. -/
theorem repacked_neg (hu : Rounded u) : repacked u.neg = (repacked u).neg := by
  cases hu with
  | nan => rw [repacked_nan]; exact repacked_nan
  | infinity s => rw [repacked_infinity]; exact repacked_infinity _
  | zero s => rw [repacked_zero]; exact repacked_zero _
  | @finite s m e pos tight =>
    rcases Int.lt_or_le 971 e with beyond | top
    · rw [repacked_of_lt beyond]
      exact repacked_of_lt beyond
    · rw [repacked_finite tight top]
      exact repacked_finite tight top

theorem parts_neg (x : Float) : parts (-x) = (parts x).neg := by
  show repacked (parts x).neg = _
  rw [repacked_neg (rounded_parts x), repacked_parts]

theorem Sign.neg_mul (s s' : Sign) : -s * s' = -(s * s') := by
  cases s <;> cases s' <;> rfl

theorem Sign.mul_comm (s s' : Sign) : s * s' = s' * s := by
  cases s <;> cases s' <;> rfl

/-- Rounding is the same on either side of zero. -/
theorem roundWithAccuracy_neg (s : Sign) (m : Nat) (e : Int) (a : Accuracy) :
    roundWithAccuracy .binary64 (-s) m e a = (roundWithAccuracy .binary64 s m e a).neg := by
  unfold roundWithAccuracy
  dsimp only
  split <;> rfl

/-- A product changes its sign with its first factor. -/
theorem neg_mul_parts (u v : UnpackedFloat) :
    UnpackedFloat.mul .binary64 u.neg v = (UnpackedFloat.mul .binary64 u v).neg := by
  cases u with
  | notANumber => rfl
  | infinity s =>
    cases v with
    | notANumber => rfl
    | infinity s' => exact congrArg UnpackedFloat.infinity (Sign.neg_mul s s')
    | zero s' => rfl
    | finite s' m' e' pos' => exact congrArg UnpackedFloat.infinity (Sign.neg_mul s s')
  | zero s =>
    cases v with
    | notANumber => rfl
    | infinity s' => rfl
    | zero s' => exact congrArg UnpackedFloat.zero (Sign.neg_mul s s')
    | finite s' m' e' pos' => exact congrArg UnpackedFloat.zero (Sign.neg_mul s s')
  | finite s m e pos =>
    cases v with
    | notANumber => rfl
    | infinity s' => exact congrArg UnpackedFloat.infinity (Sign.neg_mul s s')
    | zero s' => exact congrArg UnpackedFloat.zero (Sign.neg_mul s s')
    | finite s' m' e' pos' =>
      show roundWithAccuracy .binary64 (-s * s') (m * m') (e + e') .exact = _
      rw [Sign.neg_mul, roundWithAccuracy_neg]
      rfl

theorem mul_comm_parts (u v : UnpackedFloat) :
    UnpackedFloat.mul .binary64 u v = UnpackedFloat.mul .binary64 v u := by
  cases u with
  | notANumber => cases v <;> rfl
  | infinity s =>
    cases v with
    | notANumber | zero => rfl
    | infinity s' | finite s' => exact congrArg UnpackedFloat.infinity (Sign.mul_comm s s')
  | zero s =>
    cases v with
    | notANumber | infinity => rfl
    | zero s' | finite s' => exact congrArg UnpackedFloat.zero (Sign.mul_comm s s')
  | finite s m e pos =>
    cases v with
    | notANumber => rfl
    | infinity s' => exact congrArg UnpackedFloat.infinity (Sign.mul_comm s s')
    | zero s' => exact congrArg UnpackedFloat.zero (Sign.mul_comm s s')
    | finite s' m' e' pos' =>
      show roundWithAccuracy .binary64 (s * s') (m * m') (e + e') .exact = _
      rw [Sign.mul_comm, Nat.mul_comm, Int.add_comm]
      rfl

protected theorem mul_comm (x y : Float) : x * y = y * x :=
  mul_congr (mul_comm_parts (parts x) (parts y))

/-- A sign can be taken out of the first factor. -/
protected theorem neg_mul (x y : Float) : -x * y = -(x * y) := by
  have hrounded := rounded_mul (rounded_parts x) (rounded_parts y)
  have h : UnpackedFloat.mul .binary64 (parts (-x)) (parts y) =
      (UnpackedFloat.mul .binary64 (parts x) (parts y)).neg := by
    rw [parts_neg, neg_mul_parts]
  refine congrArg Float.ofModel ?_
  show Float.Model.pack (UnpackedFloat.mul .binary64 (parts (-x)) (parts y)) =
    Float.Model.pack (repacked (UnpackedFloat.mul .binary64 (parts x) (parts y))).neg
  rw [h, ← repacked_neg hrounded, pack_repacked hrounded.neg]

protected theorem mul_neg (x y : Float) : x * -y = -(x * y) := by
  rw [Binary64.mul_comm, Binary64.neg_mul, Binary64.mul_comm]

/-- Two signs cancel. -/
protected theorem neg_mul_neg (x y : Float) : -x * -y = x * y := by
  refine mul_congr ?_
  rw [parts_neg, parts_neg, neg_mul_parts, mul_comm_parts, neg_mul_parts, mul_comm_parts]
  cases UnpackedFloat.mul .binary64 (parts x) (parts y) with
  | notANumber => rfl
  | infinity s => cases s <;> rfl
  | zero s => cases s <;> rfl
  | finite s m e pos => cases s <;> rfl

/-- What is not a number stays so in every product. -/
theorem mul_nan (x : Float) (h : parts y = .notANumber) : parts (x * y) = .notANumber := by
  rw [parts_mul, h, mul_comm_parts]
  exact repacked_nan

theorem nan_mul (y : Float) (h : parts x = .notANumber) : parts (x * y) = .notANumber := by
  rw [Binary64.mul_comm]
  exact mul_nan y h

/-- No number, or one that is not below zero; either zero will do. -/
inductive NonNegative : UnpackedFloat → Prop
  | nan : NonNegative .notANumber
  | infinity : NonNegative (.infinity .positive)
  | zero (s : Sign) : NonNegative (.zero s)
  | finite {m : Nat} {e : Int} {pos : 0 < m} : NonNegative (.finite .positive m e pos)

theorem nonNegative_roundWithAccuracy (m : Nat) (e : Int) (a : Accuracy) :
    NonNegative (roundWithAccuracy .binary64 .positive m e a) := by
  unfold roundWithAccuracy
  dsimp only
  split
  · exact .zero _
  · exact .finite

/-- Packing does not take a number below zero. -/
theorem NonNegative.repacked (h : NonNegative u) (hu : Rounded u) : NonNegative (repacked u) := by
  cases h with
  | nan => rw [repacked_nan]; exact .nan
  | infinity => rw [repacked_infinity]; exact .infinity
  | zero s => rw [repacked_zero]; exact .zero s
  | @finite m e pos =>
    cases hu with
    | finite tight =>
      rcases Int.lt_or_le 971 e with beyond | top
      · rw [repacked_of_lt beyond]
        exact .infinity
      · rw [repacked_finite tight top]
        exact .finite

theorem NonNegative.mul (hu : NonNegative u) (hv : NonNegative v) :
    NonNegative (.mul .binary64 u v) := by
  cases hu with
  | nan => exact .nan
  | infinity =>
    cases hv with
    | nan | zero => exact .nan
    | infinity | finite => exact .infinity
  | zero s =>
    cases hv with
    | nan | infinity => exact .nan
    | zero | finite => exact .zero _
  | finite =>
    cases hv with
    | nan => exact .nan
    | infinity => exact .infinity
    | zero => exact .zero _
    | finite => exact nonNegative_roundWithAccuracy _ _ _

/-- No product of factors that are not below zero is below zero. -/
theorem nonNegative_mul (hx : NonNegative (parts x)) (hy : NonNegative (parts y)) :
    NonNegative (parts (x * y)) :=
  (hx.mul hy).repacked (rounded_mul (rounded_parts x) (rounded_parts y))

end VoiceGateway.Binary64
