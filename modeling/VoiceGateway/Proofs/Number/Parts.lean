import Mathlib
import VoiceGateway.Proofs.Number.Binary64

/-!
# Doubles taken apart

Arithmetic takes doubles apart, computes with whole numbers and packs the outcome again. A
number that is spelled as a double spells it, with 53 binary digits at most and with no
fewer unless its exponent is the least one (`Tight`), comes through packing as it was; one
whose exponent is beyond the greatest becomes an infinity.

> `repacked_finite`, `repacked_of_lt`: what packing does to a tight number.
> `rounded_parts`, `repacked_parts`: what a double is taken apart into comes through packing.
> `denotes_parts`: the parts are what the double stands for.
-/

namespace VoiceGateway.Binary64

open Float.Model Float.Model.UnpackedFloat

/-- What a double is taken apart into. -/
def parts (x : Float) : UnpackedFloat := x.toModel.unpack

/-- What is left of the outcome of an operation once it is packed. -/
def repacked (u : UnpackedFloat) : UnpackedFloat := (Float.Model.pack u).unpack

/-- A number `m · 2 ^ e` as doubles spell it. -/
structure Tight (m : Nat) (e : Int) : Prop where
  lt : m < 2 ^ 53
  least : -1074 ≤ e
  full : 2 ^ 52 ≤ m ∨ e = -1074

/-- The outcome of an operation before it is packed: if it is a number, it is tight. -/
inductive Rounded : UnpackedFloat → Prop
  | nan : Rounded .notANumber
  | infinity (s : Sign) : Rounded (.infinity s)
  | zero (s : Sign) : Rounded (.zero s)
  | finite {s : Sign} {m : Nat} {e : Int} {pos : 0 < m} (tight : Tight m e) :
      Rounded (.finite s m e pos)

variable {s : Sign} {m : Nat} {e : Int} {pos : 0 < m}

/-! ## The stored fields -/

/-- The parts by sign, exponent and fraction as they are stored. -/
def assembled (s : Sign) (e : BitVec 11) (m : BitVec 52) : UnpackedFloat :=
  if e = -1#11 then if m = 0#52 then .infinity s else .notANumber
  else if e = 0#11 then
    if h : m = 0#52 then .zero s
    else .finite s m.toNat (-1074) (Nat.pos_of_ne_zero fun h0 => h (BitVec.eq_of_toNat_eq h0))
  else .finite s (2 ^ 52 + m.toNat) (e.toNat - 1075) (Nat.add_pos_left (by decide) _)

theorem assembled_infinity (s : Sign) : assembled s (-1#11) 0#52 = .infinity s := rfl

/-- Below the least exponent with a leading digit, the fraction is all there is. -/
theorem assembled_small {m : BitVec 52} (nonzero : m ≠ 0#52) :
    ∃ pos, assembled s 0#11 m = .finite s m.toNat (-1074) pos :=
  ⟨_, (if_neg (by decide)).trans ((if_pos rfl).trans (dif_neg nonzero))⟩

/-- Otherwise the leading digit is not stored. -/
theorem assembled_large {e : BitVec 11} (m : BitVec 52) (nonzero : e ≠ 0#11) (top : e ≠ -1#11) :
    ∃ pos, assembled s e m = .finite s (2 ^ 52 + m.toNat) (e.toNat - 1075) pos :=
  ⟨_, (if_neg top).trans (if_neg nonzero)⟩

theorem tight_of_assembled {s' : Sign} {f : BitVec 11} {g : BitVec 52}
    (h : assembled s' f g = .finite s m e pos) : Tight m e ∧ e ≤ 971 := by
  have hg := g.isLt
  unfold assembled at h
  split at h
  · split at h <;> cases h
  · next htop =>
    have top : f.toNat ≠ 2047 := fun h0 => htop (BitVec.eq_of_toNat_eq h0)
    split at h
    · split at h
      · cases h
      · cases h
        exact ⟨⟨by omega, by omega, Or.inr rfl⟩, by omega⟩
    · next hzero =>
      have nonzero : f.toNat ≠ 0 := fun h0 => hzero (BitVec.eq_of_toNat_eq h0)
      cases h
      exact ⟨⟨by omega, by omega, Or.inl (by omega)⟩, by omega⟩

theorem unpack_eq (b : BitVec 64) : UnpackedFloat.unpack Format.binary64 b =
    assembled (.ofBitVec (@unpackSign .binary64 b))
      (@unpackExponent .binary64 b)
      (@unpackMantissa .binary64 b) := by
  have hm : (1#1 ++ @unpackMantissa .binary64 b).toNat =
      2 ^ 52 + (@unpackMantissa .binary64 b).toNat := by
    rw [BitVec.toNat_append, ← Nat.shiftLeft_add_eq_or_of_lt (BitVec.isLt _)]
    rfl
  unfold UnpackedFloat.unpack assembled
  simp only [hm]
  split
  · rfl
  · split
    · next h =>
      simp only [h]
      rfl
    · rfl

theorem unpack_packComponents (s : Sign) (e : BitVec 11) (m : BitVec 52) :
    UnpackedFloat.unpack Format.binary64 (packComponents Format.binary64 s e m) =
      assembled s e m := by
  have h := unpack_eq (packComponents Format.binary64 s e m)
  rw [unpackSign_packComponents, Sign.ofBitVec_toBitVec] at h
  refine h.trans ?_
  rw [unpackMantissa_packComponents, unpackExponent_packComponents]

/-! ## Packing -/

theorem repacked_nan : repacked .notANumber = .notANumber := @unpack_packedNaN .binary64

theorem repacked_infinity (s : Sign) : repacked (.infinity s) = .infinity s := by
  unfold repacked Float.Model.unpack Float.Model.pack UnpackedFloat.pack packedInfinity
  exact unpack_packComponents s (-1#11) 0#52

theorem repacked_zero (s : Sign) : repacked (.zero s) = .zero s := unpack_packedZero

/-- What packing makes of a number, by its exponent and the digits it has. -/
theorem repacked_eq : repacked (.finite s m e pos) = UnpackedFloat.unpack Format.binary64
    (if 2048 ≤ (e + 1075).toNat + 1 then packComponents Format.binary64 s (-1#11) 0#52
      else if m.log2 + 1 = 53 then
        packComponents Format.binary64 s (.ofNat 11 (e + 1075).toNat) (.ofNat 52 m)
      else packComponents Format.binary64 s 0#11 (.ofNat 52 m)) := by
  have he : e + (Format.binary64.exponentBias : Int) +
      (Format.binary64.mantissaBitsWithoutImplicit : Int) = e + 1075 := by
    show e + 1023 + 52 = _
    omega
  unfold repacked Float.Model.unpack Float.Model.pack UnpackedFloat.pack
  dsimp only
  rw [← he]
  rfl

/-- A number beyond the greatest exponent becomes an infinity. -/
theorem repacked_of_lt (beyond : 971 < e) : repacked (.finite s m e pos) = .infinity s := by
  rw [repacked_eq, if_pos (by omega), unpack_packComponents, assembled_infinity]

/-- With all digits there is a leading one, which is not stored. -/
theorem repacked_of_full (full : 2 ^ 52 ≤ m) (lt : m < 2 ^ 53) (least : -1074 ≤ e) (top : e ≤ 971) :
    repacked (.finite s m e pos) = .finite s m e pos := by
  have hlog : m.log2 = 52 := (Nat.log2_eq_iff (by omega)).mpr ⟨full, lt⟩
  have hexp : (BitVec.ofNat 11 (e + 1075).toNat).toNat = (e + 1075).toNat := by
    rw [BitVec.toNat_ofNat, Nat.mod_eq_of_lt (by omega)]
  have hman : 2 ^ 52 + (BitVec.ofNat 52 m).toNat = m := by
    rw [BitVec.toNat_ofNat]
    omega
  have nonzero : BitVec.ofNat 11 (e + 1075).toNat ≠ 0#11 := by
    intro h
    have h0 : _ = 0 := congrArg BitVec.toNat h
    rw [hexp] at h0
    omega
  have notTop : BitVec.ofNat 11 (e + 1075).toNat ≠ -1#11 := by
    intro h
    have htop : _ = 2047 := congrArg BitVec.toNat h
    rw [hexp] at htop
    omega
  obtain ⟨pos, h⟩ := assembled_large (s := s) (.ofNat 52 m) nonzero notTop
  rw [repacked_eq, if_neg (by omega), if_pos (by omega), unpack_packComponents, h]
  simp only [hman, hexp]
  congr 1
  omega

/-- With fewer digits, at the least exponent, there is none. -/
theorem repacked_of_low (lt : m < 2 ^ 52) :
    repacked (.finite s m (-1074) pos) = .finite s m (-1074) pos := by
  have hlog : m.log2 < 52 := (Nat.log2_lt (by omega)).mpr lt
  have hman : (BitVec.ofNat 52 m).toNat = m := by
    rw [BitVec.toNat_ofNat, Nat.mod_eq_of_lt lt]
  have nonzero : BitVec.ofNat 52 m ≠ 0#52 := by
    intro h
    have h0 : _ = 0 := congrArg BitVec.toNat h
    rw [hman] at h0
    omega
  obtain ⟨pos, h⟩ := assembled_small (s := s) nonzero
  rw [repacked_eq, if_neg (by omega), if_neg (by omega), unpack_packComponents, h]
  simp only [hman]

/-- A tight number comes through packing as it was. -/
theorem repacked_finite (tight : Tight m e) (top : e ≤ 971) :
    repacked (.finite s m e pos) = .finite s m e pos := by
  obtain ⟨hlt, hleast, hfull⟩ := tight
  by_cases hm : 2 ^ 52 ≤ m
  · exact repacked_of_full hm hlt hleast top
  · obtain rfl := hfull.resolve_left hm
    exact repacked_of_low (Nat.lt_of_not_le hm)

/-! ## Doubles -/

theorem tight_of_parts {x : Float} (h : parts x = .finite s m e pos) : Tight m e ∧ e ≤ 971 :=
  tight_of_assembled ((unpack_eq _).symm.trans h)

theorem rounded_parts (x : Float) : Rounded (parts x) := by
  cases h : parts x with
  | notANumber => exact .nan
  | infinity s => exact .infinity s
  | zero s => exact .zero s
  | finite s m e pos => exact .finite (tight_of_parts h).1

/-- What a double is taken apart into comes through packing. -/
theorem repacked_parts (x : Float) : repacked (parts x) = parts x :=
  congrArg (UnpackedFloat.unpack Format.binary64) (pack_unpack_of_valid x.toModel.valid)

def isNegative : Sign → Bool
  | .negative => true
  | .positive => false

/-- The parts of a double and what it stands for. -/
inductive Denotes : UnpackedFloat → Binary64 → Prop
  | nan : Denotes .notANumber .nan
  | infinity (s : Sign) : Denotes (.infinity s) (.infinite (isNegative s))
  | zero (s : Sign) : Denotes (.zero s) (.finite ⟨isNegative s, 0, -1074, false⟩)
  | finite (s : Sign) (m : Nat) (e : Int) (pos : 0 < m) (narrow : Bool) :
      Denotes (.finite s m e pos) (.finite ⟨isNegative s, m, e, narrow⟩)

theorem denotes_assembled (s : Sign) (f : BitVec 11) (g : BitVec 52) :
    Denotes (assembled s f g)
      (if f.toNat = 2047 then if g.toNat = 0 then .infinite (isNegative s) else .nan
        else if f.toNat = 0 then .finite ⟨isNegative s, g.toNat, -1074, false⟩
        else .finite ⟨isNegative s, (1 <<< 52) + g.toNat, (f.toNat : Int) - 1075,
          g.toNat = 0 && 1 < f.toNat⟩) := by
  have hzero : g = 0#52 ↔ g.toNat = 0 := BitVec.toNat_eq
  have hlow : f = 0#11 ↔ f.toNat = 0 := BitVec.toNat_eq
  have htop : f = -1#11 ↔ f.toNat = 2047 := BitVec.toNat_eq
  by_cases top : f = -1#11
  · rw [if_pos (htop.mp top)]
    subst top
    by_cases zero : g = 0#52
    · rw [if_pos (hzero.mp zero), zero]
      exact .infinity s
    · rw [if_neg (mt hzero.mpr zero)]
      unfold assembled
      rw [if_pos rfl, if_neg zero]
      exact .nan
  · rw [if_neg (mt htop.mpr top)]
    by_cases low : f = 0#11
    · rw [if_pos (hlow.mp low)]
      subst low
      by_cases zero : g = 0#52
      · rw [zero]
        exact .zero s
      · obtain ⟨pos, h⟩ := assembled_small (s := s) zero
        rw [h]
        exact .finite s g.toNat (-1074) pos false
    · obtain ⟨pos, h⟩ := assembled_large (s := s) g low top
      rw [if_neg (mt hlow.mpr low), h]
      exact .finite s _ _ pos _

theorem toNat_unpackExponent (b : BitVec 64) :
    (@unpackExponent .binary64 b).toNat = (b.toNat >>> 52) % 2048 := by
  unfold unpackExponent
  rw [BitVec.toNat_cast, BitVec.extractLsb_toNat]
  rfl

theorem toNat_unpackMantissa (b : BitVec 64) :
    (@unpackMantissa .binary64 b).toNat = b.toNat % (1 <<< 52) := by
  unfold unpackMantissa
  rw [BitVec.toNat_cast, BitVec.extractLsb_toNat]
  rfl

theorem isNegative_unpackSign (b : BitVec 64) :
    isNegative (.ofBitVec (@unpackSign .binary64 b)) = decide (0x8000000000000000 ≤ b.toNat) := by
  have hbit : (@unpackSign .binary64 b).toNat = (b.toNat >>> 63) % 2 := by
    unfold unpackSign
    rw [BitVec.toNat_cast, BitVec.extractLsb_toNat]
    rfl
  rw [Nat.shiftRight_eq_div_pow] at hbit
  have hb := b.isLt
  have hzero := BitVec.toNat_eq (x := @unpackSign .binary64 b) (y := 0#1)
  rw [BitVec.toNat_zero] at hzero
  unfold Sign.ofBitVec
  by_cases h0 : @unpackSign .binary64 b = 0#1
  · have hbelow := hbit.symm.trans (hzero.mp h0)
    rw [if_pos h0, decide_eq_false (by omega)]
    rfl
  · have habove : _ ≠ 0 := mt hzero.mpr h0
    rw [if_neg h0, decide_eq_true (by omega)]
    rfl

/-- The parts of a double are what it stands for. -/
theorem denotes_parts (x : Float) : Denotes (parts x) (ofFloat x) := by
  let b : BitVec 64 := x.toBits.toBitVec
  have h := denotes_assembled (.ofBitVec (@unpackSign .binary64 b)) (@unpackExponent .binary64 b)
    (@unpackMantissa .binary64 b)
  rw [← unpack_eq, toNat_unpackExponent, toNat_unpackMantissa, isNegative_unpackSign] at h
  exact h

end VoiceGateway.Binary64
