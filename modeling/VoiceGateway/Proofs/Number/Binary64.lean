import VoiceGateway.Number.Binary64

/-!
# Doubles known by what they stand for

A double is its bits (`float_ext`), so taking it apart loses nothing. Where the parts
leave one possibility only, the double is a constant: the infinities, the two zeros and,
as there is one pattern only for what is not a number, that as well.

> `eq_of_infinite`, `eq_of_zero`, `eq_of_nan`: the doubles of each of these kinds.
-/

namespace VoiceGateway.Binary64

theorem float_ext {x y : Float} (h : x.toBits = y.toBits) : x = y := by
  obtain ⟨⟨bits, valid⟩⟩ := x
  obtain ⟨⟨bits', valid'⟩⟩ := y
  have hb : bits = bits' := h
  subst hb
  rfl

/-- The bits of a double as sign, exponent and fraction. -/
theorem bits_eq (n : Nat) (h : n < 0x10000000000000000) :
    n = (if 0x8000000000000000 ≤ n then 0x8000000000000000 else 0) +
      (n >>> 52) % 2048 * 0x10000000000000 + n % (1 <<< 52) := by
  rw [Nat.shiftRight_eq_div_pow]
  show n = _ + n / 0x10000000000000 % 2048 * 0x10000000000000 + n % 0x10000000000000
  split <;> omega

theorem float_ext_toNat {x y : Float} (h : x.toBits.toNat = y.toBits.toNat) : x = y :=
  float_ext (UInt64.toNat_inj.mp h)

theorem eq_of_infinite {x : Float} {negative : Bool} (h : ofFloat x = .infinite negative) :
    x = if negative then -(1.0 / 0.0) else 1.0 / 0.0 := by
  have hbits := bits_eq x.toBits.toNat x.toBits.toNat_lt
  unfold ofFloat at h
  dsimp only at h
  split at h
  · next he =>
    split at h
    · next hf =>
      injection h with hn
      rw [he, hf] at hbits
      refine float_ext_toNat (hbits.trans ?_)
      subst hn
      by_cases hs : 0x8000000000000000 ≤ x.toBits.toNat
      · rw [if_pos hs, decide_eq_true hs]
        decide
      · rw [if_neg hs, decide_eq_false hs]
        decide
    · exact absurd h (by simp)
  · split at h <;> exact absurd h (by simp)

theorem eq_of_zero {x : Float} {d : Dyadic} (h : ofFloat x = .finite d) (zero : d.significand = 0) :
    x = if d.negative then -0.0 else 0.0 := by
  have hbits := bits_eq x.toBits.toNat x.toBits.toNat_lt
  unfold ofFloat at h
  dsimp only at h
  split at h
  · split at h <;> exact absurd h (by simp)
  · split at h
    · next he =>
      injection h with hd
      have hn : decide (0x8000000000000000 ≤ x.toBits.toNat) = d.negative :=
        congrArg Dyadic.negative hd
      have hf : x.toBits.toNat % (1 <<< 52) = 0 := (congrArg Dyadic.significand hd).trans zero
      rw [he, hf] at hbits
      refine float_ext_toNat (hbits.trans ?_)
      by_cases hs : 0x8000000000000000 ≤ x.toBits.toNat
      · rw [if_pos hs, ← hn, decide_eq_true hs]
        decide
      · rw [if_neg hs, ← hn, decide_eq_false hs]
        decide
    · injection h with hd
      subst hd
      have hf : (1 <<< 52) + x.toBits.toNat % (1 <<< 52) = 0 := zero
      exact absurd hf (by simp)

/-- What is not a number has one pattern of bits. -/
theorem eq_of_nan {x : Float} (h : ofFloat x = .nan) : x = 0.0 / 0.0 := by
  unfold ofFloat at h
  dsimp only at h
  split at h
  · next he =>
    split at h
    · exact absurd h (by simp)
    · next hf =>
      obtain ⟨⟨bits, valid⟩⟩ := x
      refine float_ext (UInt64.toBitVec_inj.mp (valid.eq_packedNaN ?_ ?_))
      · refine BitVec.eq_of_toNat_eq ?_
        show bits.toNat >>> 52 % 2048 = 2047
        exact he
      · intro hm
        have hz := congrArg BitVec.toNat hm
        exact hf hz
  · split at h <;> exact absurd h (by simp)

end VoiceGateway.Binary64
