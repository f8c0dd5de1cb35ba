import VoiceGateway.Snowflake

/-!
# Decimal digits read back

The digits of a number are all ASCII digits, and the first one is a zero only if the
number is zero. Read one after the other they give the number again, so an id is read
from its own text.

> `value_digits`: a number is the value of its digits.
> `ofText_text`: an id is read from its text.
-/

namespace VoiceGateway

namespace Decimal

theorem isDigit_of_mem_digits {n : Nat} {c : Char} (h : c ∈ digits n) : c.isDigit = true :=
  Nat.isDigit_of_mem_toDigits (by decide) (by decide) h

theorem digits_of_ten_le {n : Nat} (h : 10 ≤ n) :
    digits n = digits (n / 10) ++ [(n % 10).digitChar] :=
  Nat.toDigits_of_base_le (by decide) h

/-- A number other than zero has no leading zero. -/
theorem digits_eq_cons {n : Nat} (h : n ≠ 0) : ∃ c cs, digits n = c :: cs ∧ c ≠ '0' := by
  induction n using Nat.strongRecOn with
  | ind n ih =>
    by_cases small : n < 10
    · refine ⟨n.digitChar, [], Nat.toDigits_of_lt_base small, ?_⟩
      rw [Ne, Nat.digitChar_eq_zero]
      exact h
    · have hle : 10 ≤ n := Nat.le_of_not_lt small
      obtain ⟨c, cs, hcs, hc⟩ := ih (n / 10) (by omega) (by omega)
      rw [digits_of_ten_le hle, hcs]
      exact ⟨c, cs ++ [(n % 10).digitChar], rfl, hc⟩

theorem digit?_of_isDigit {c : Char} (h : c.isDigit = true) :
    digit? c = some (c.toNat - '0'.toNat) := by
  unfold digit?
  rw [if_pos h]
  rfl

/-- Digits are read as core reads them. -/
theorem value_eq_ofDigitChars {cs : List Char} (h : ∀ c ∈ cs, c.isDigit = true) :
    value cs = Nat.ofDigitChars 10 cs 0 := by
  have hfold : ∀ acc, cs.foldl (fun acc c => acc * 10 + (digit? c).getD 0) acc =
      Nat.ofDigitChars 10 cs acc := by
    induction cs with
    | nil => exact fun acc => rfl
    | cons c cs ih =>
      intro acc
      rw [List.foldl_cons, Nat.ofDigitChars_cons, digit?_of_isDigit (h c List.mem_cons_self),
        Nat.mul_comm acc 10]
      exact ih (fun x hx => h x (List.mem_cons_of_mem c hx)) _
  exact hfold 0

theorem value_digits (n : Nat) : value (digits n) = n := by
  rw [value_eq_ofDigitChars fun c hc => isDigit_of_mem_digits hc]
  exact Nat.ofDigitChars_ten_toDigits

/-- More digits make a number no smaller. -/
theorem le_ofDigitChars (cs : List Char) (acc : Nat) : acc ≤ Nat.ofDigitChars 10 cs acc := by
  induction cs generalizing acc with
  | nil => exact Nat.le_refl acc
  | cons c cs ih =>
    rw [Nat.ofDigitChars_cons]
    exact Nat.le_trans (by omega) (ih _)

end Decimal

namespace Snowflake

open Decimal (digits isDigit_of_mem_digits digit?_of_isDigit le_ofDigitChars)

/-- Digits of a number that fits are read to their end. -/
theorem readDigits_of_lt {cs : List Char} {acc : Nat} (h : ∀ c ∈ cs, c.isDigit = true)
    (fits : Nat.ofDigitChars 10 cs acc < 0x10000000000000000) :
    readDigits acc cs = .ok (Nat.ofDigitChars 10 cs acc) := by
  induction cs generalizing acc with
  | nil => rfl
  | cons c cs ih =>
    rw [Nat.ofDigitChars_cons, Nat.mul_comm 10 acc] at fits ⊢
    unfold readDigits
    rw [digit?_of_isDigit (h c List.mem_cons_self)]
    show (if _ then _ else _) = _
    rw [if_pos (Nat.lt_of_le_of_lt (le_ofDigitChars cs _) fits)]
    exact ih (fun x hx => h x (List.mem_cons_of_mem c hx)) fits

theorem isBlank_of_isDigit {c : Char} (h : c.isDigit = true) : Text.isBlank c = false := by
  have hc : 48 ≤ c.toNat ∧ c.toNat ≤ 57 := by
    simp only [Char.isDigit, Bool.and_eq_true, decide_eq_true_eq] at h
    exact h
  simp only [Text.isBlank, Bool.or_eq_false_iff, Bool.and_eq_false_iff, decide_eq_false_iff_not,
    beq_eq_false_iff_ne]
  omega

/-- A text without blanks is its own trimmed form. -/
theorem trim_of_digits {cs : List Char} (h : ∀ c ∈ cs, c.isDigit = true) : Text.trim cs = cs := by
  have keep : ∀ l : List Char, (∀ c ∈ l, c.isDigit = true) → l.dropWhile Text.isBlank = l := by
    intro l hl
    cases l with
    | nil => rfl
    | cons c l => rw [List.dropWhile_cons, isBlank_of_isDigit (hl c List.mem_cons_self)]; rfl
  unfold Text.trim
  rw [keep cs h, keep cs.reverse (fun c hc => h c (List.mem_reverse.mp hc)), List.reverse_reverse]

theorem dropPlus_of_digits {cs : List Char} (h : ∀ c ∈ cs, c.isDigit = true) :
    dropPlus cs = cs := by
  unfold dropPlus
  split
  · next c cs =>
    exact absurd (h '+' List.mem_cons_self) (by decide)
  · rfl

theorem ofText_text (id : Snowflake) : ofText id.text = .ok id := by
  have hdigits : ∀ c ∈ digits id.raw.toNat, c.isDigit = true := fun c => isDigit_of_mem_digits
  have hvalue : Nat.ofDigitChars 10 (digits id.raw.toNat) 0 = id.raw.toNat :=
    Nat.ofDigitChars_ten_toDigits
  have hread : readNumber (digits id.raw.toNat) = .ok id.raw.toNat := by
    have fits : Nat.ofDigitChars 10 (digits id.raw.toNat) 0 < 0x10000000000000000 := by
      rw [hvalue]
      exact id.raw.toNat_lt
    unfold readNumber
    split
    · next hnil => exact absurd hnil Nat.toDigits_ne_nil
    · rw [dropPlus_of_digits hdigits, readDigits_of_lt hdigits fits, hvalue]
  unfold ofText text Decimal.text
  rw [String.toList_ofList, trim_of_digits hdigits, hread]
  show Except.ok (Snowflake.mk id.raw.toNat.toUInt64) = _
  rw [show id.raw.toNat.toUInt64 = id.raw from UInt64.ofNat_toNat]

end Snowflake

end VoiceGateway
