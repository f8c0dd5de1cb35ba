import Mathlib.Algebra.Group.Nat.Defs
import Mathlib.Data.List.TakeWhile
import VoiceGateway.Proofs.Decimal

/-!
# How ids are read

What makes a text an id, and which cause a text that is none is refused for. Blanks at the
ends of a text do not count, nor does one plus sign that something follows; what is left has
to be digits.

The reader looks at each character before it counts it, so a character that is no digit is
only met if all digits before it were counted. More digits never make a number smaller, and
so the digits at the front decide alone whether it is too large.

> `trims_trim`: what is left of a text without the blanks at its ends.
> `readDigits_eq`: the verdict on a run of characters, by the digits at its front.
> `id_text_grammar`: the verdict on every text.
-/

namespace VoiceGateway

namespace Text

/-- A text without the blanks that another one has at its ends. -/
structure Trims (cs t : List Char) : Prop where
  around : ∃ before after, cs = before ++ t ++ after ∧
    (∀ c ∈ before, isBlank c = true) ∧ ∀ c ∈ after, isBlank c = true
  head : ∀ c, t.head? = some c → isBlank c = false
  last : ∀ c, t.getLast? = some c → isBlank c = false

theorem head?_dropWhile_isBlank (cs : List Char) {c : Char}
    (h : (cs.dropWhile isBlank).head? = some c) : isBlank c = false := by
  have hnot := List.head?_dropWhile_not isBlank cs
  rw [h] at hnot
  exact hnot

/-- The blanks at the front first, and then those at the end. -/
theorem trims_trim (cs : List Char) : Trims cs (trim cs) := by
  let front := cs.dropWhile isBlank
  have hfront : cs = cs.takeWhile isBlank ++ front := List.takeWhile_append_dropWhile.symm
  have hback : front = trim cs ++ (front.reverse.takeWhile isBlank).reverse := by
    show front = (front.reverse.dropWhile isBlank).reverse ++ _
    rw [← List.reverse_append, List.takeWhile_append_dropWhile, List.reverse_reverse]
  refine ⟨⟨cs.takeWhile isBlank, (front.reverse.takeWhile isBlank).reverse, ?_, ?_, ?_⟩, ?_, ?_⟩
  · rw [List.append_assoc, ← hback]
    exact hfront
  · intro c hc
    exact List.mem_takeWhile_imp hc
  · intro c hc
    exact List.mem_takeWhile_imp (List.mem_reverse.mp hc)
  · -- What is trimmed at the end leaves the head as it is.
    intro c hc
    refine head?_dropWhile_isBlank cs ?_
    show front.head? = some c
    rw [hback, List.head?_append, hc]
    rfl
  · intro c hc
    refine head?_dropWhile_isBlank front.reverse ?_
    rw [← hc]
    show _ = ((front.reverse.dropWhile isBlank).reverse).getLast?
    rw [List.getLast?_reverse]

end Text

namespace Snowflake

open Decimal (digit?_of_isDigit le_ofDigitChars)

/-- The digits at the front decide whether a number is too large; if it is not, the first
character that is no digit is met. -/
theorem readDigits_eq {acc : Nat} (fits : acc < 2 ^ 64) (cs : List Char) :
    readDigits acc cs =
      if 2 ^ 64 ≤ Nat.ofDigitChars 10 (cs.takeWhile Char.isDigit) acc then .error .tooLarge
      else if cs.all Char.isDigit then .ok (Nat.ofDigitChars 10 cs acc)
      else .error .invalidDigit := by
  induction cs generalizing acc with
  | nil =>
    show _ = if 2 ^ 64 ≤ acc then _ else _
    rw [if_neg (Nat.not_le.mpr fits), List.all_nil, if_pos rfl]
    rfl
  | cons c cs ih =>
    unfold readDigits
    cases digit : c.isDigit with
    | false =>
      have hnone : Decimal.digit? c = none := by
        unfold Decimal.digit?
        rw [if_neg (by simp [digit])]
      have hall : ¬ (c :: cs).all Char.isDigit = true := by simp [digit]
      rw [hnone, List.takeWhile_cons_of_neg (by simp [digit]), if_neg hall]
      exact (if_neg (Nat.not_le.mpr fits)).symm
    | true =>
      rw [digit?_of_isDigit digit, List.takeWhile_cons_of_pos digit, Nat.ofDigitChars_cons,
        Nat.ofDigitChars_cons, Nat.mul_comm 10 acc]
      show (if _ < 2 ^ 64 then _ else _) = _
      by_cases small : acc * 10 + (c.toNat - '0'.toNat) < 2 ^ 64
      · rw [if_pos small, ih small]
        rw [List.all_cons, digit, Bool.true_and]
      · -- The digits behind it make the number no smaller.
        have hmore := le_ofDigitChars (cs.takeWhile Char.isDigit)
          (acc * 10 + (c.toNat - '0'.toNat))
        rw [if_neg small, if_pos (Nat.le_trans (Nat.not_lt.mp small) hmore)]

theorem dropPlus_eq (t : List Char) :
    dropPlus t = if t.head? = some '+' ∧ t.tail ≠ [] then t.tail else t := by
  unfold dropPlus
  split
  · next c cs => rw [if_pos ⟨rfl, by simp⟩]; rfl
  · next h =>
    rw [if_neg]
    -- A plus sign and something behind it would have been the first case.
    rintro ⟨head, tail⟩
    cases t with
    | nil => exact tail rfl
    | cons c cs =>
      cases cs with
      | nil => exact tail rfl
      | cons c' cs => exact h c' cs (by rw [Option.some.inj head])

/-- What has to be digits: a text without the blanks at its ends and one plus sign. -/
def body (s : String) : List Char := dropPlus (Text.trim s.toList)

/-- The number that the digits at the front make. -/
def front (cs : List Char) : Nat := Nat.ofDigitChars 10 (cs.takeWhile Char.isDigit) 0

/-- If there are only digits, those at the front are all of them. -/
theorem front_of_digits {cs : List Char} (digits : ∀ c ∈ cs, c.isDigit = true) :
    front cs = Nat.ofDigitChars 10 cs 0 := by
  unfold front
  rw [List.takeWhile_eq_self_iff.mpr digits]

/-- A plus sign alone stays. -/
theorem body_eq_nil_iff (s : String) : body s = [] ↔ Text.trim s.toList = [] := by
  unfold body dropPlus
  split
  · next h => simp [h]
  · exact Iff.rfl

/-- What a text is read as. -/
theorem ofText_eq (s : String) :
    ofText s =
      if body s = [] then .error .empty
      else if 2 ^ 64 ≤ front (body s) then .error .tooLarge
      else if (body s).all Char.isDigit then
        .ok ⟨(Nat.ofDigitChars 10 (body s) 0).toUInt64⟩
      else .error .invalidDigit := by
  have hnil := body_eq_nil_iff s
  unfold ofText readNumber
  split
  · next blank =>
    rw [if_pos (hnil.mpr blank)]
    rfl
  · next filled =>
    rw [if_neg fun h => filled (hnil.mp h)]
    show (readDigits 0 (body s)).map _ = _
    rw [readDigits_eq (by decide)]
    show Except.map _ (if 2 ^ 64 ≤ front (body s) then _ else _) = _
    split
    · rfl
    · split <;> rfl

/-- Which texts are an id, and which. -/
theorem ofText_eq_ok_iff (s : String) (id : Snowflake) :
    ofText s = .ok id ↔ body s ≠ [] ∧ (∀ c ∈ body s, c.isDigit = true) ∧
      Nat.ofDigitChars 10 (body s) 0 = id.raw.toNat := by
  rw [ofText_eq]
  constructor
  · intro h
    split at h
    · cases h
    · next filled =>
      split at h
      · cases h
      · next small =>
        split at h
        · next all =>
          cases h
          have digits := List.all_eq_true.mp all
          rw [front_of_digits digits] at small
          exact ⟨filled, digits, (UInt64.toNat_ofNat_of_lt' (Nat.lt_of_not_le small)).symm⟩
        · cases h
  · -- That the number is an id says that it fits.
    rintro ⟨filled, digits, hvalue⟩
    have small : ¬ 2 ^ 64 ≤ front (body s) := by
      rw [front_of_digits digits, hvalue]
      exact Nat.not_le.mpr id.raw.toNat_lt
    rw [if_neg filled, if_neg small, if_pos (List.all_eq_true.mpr digits), hvalue]
    exact congrArg (fun n => Except.ok (Snowflake.mk n)) UInt64.ofNat_toNat

theorem ofText_eq_empty_iff (s : String) : ofText s = .error .empty ↔ body s = [] := by
  rw [ofText_eq]
  split
  · next blank => simp [blank]
  · next filled =>
    split
    · simp [filled]
    · split <;> simp [filled]

theorem ofText_eq_tooLarge_iff (s : String) :
    ofText s = .error .tooLarge ↔ body s ≠ [] ∧ 2 ^ 64 ≤ front (body s) := by
  rw [ofText_eq]
  split
  · next blank => simp [blank]
  · next filled =>
    split
    · next large => exact iff_of_true rfl ⟨filled, large⟩
    · next small =>
      refine iff_of_false (fun h => ?_) fun h => small h.2
      split at h <;> cases h

theorem ofText_eq_invalidDigit_iff (s : String) :
    ofText s = .error .invalidDigit ↔
      body s ≠ [] ∧ front (body s) < 2 ^ 64 ∧ ∃ c ∈ body s, c.isDigit = false := by
  rw [ofText_eq]
  split
  · next blank => simp [blank]
  · next filled =>
    split
    · next large =>
      exact iff_of_false (fun h => by cases h) fun h => Nat.not_lt.mpr large h.2.1
    · next small =>
      split
      · next all =>
        refine iff_of_false (fun h => by cases h) fun ⟨_, _, c, hc, other⟩ => ?_
        exact absurd ((List.all_eq_true.mp all c hc).symm.trans other) (by simp)
      · next other =>
        refine iff_of_true rfl ⟨filled, Nat.lt_of_not_le small, ?_⟩
        simpa using other

/-- Every text is an id or is refused for one of three causes. Let `t` be the text without the
blanks at its ends and `d` be `t` without one plus sign at its front, if anything follows that.

* The text is an id if `d` consists of digits, of which there is at least one and which may
  be zeros at the front, and their number is less than `2 ^ 64`; then it is that number.
* If `t` is empty the text is refused as empty.
* Otherwise, if the digits at the front of `d` make a number of `2 ^ 64` or more, whatever
  comes behind them, it is refused as too large.
* In all other cases it is refused for a character that is no digit.

The text that shows an id is that id. -/
theorem id_text_grammar :
    (∀ s : String,
      let t := Text.trim s.toList
      let d := if t.head? = some '+' ∧ t.tail ≠ [] then t.tail else t
      let leading := Nat.ofDigitChars 10 (d.takeWhile Char.isDigit) 0
      Text.Trims s.toList t ∧
      (∀ v, (∃ id, ofText s = .ok id ∧ id.raw.toNat = v) ↔
        d ≠ [] ∧ (∀ c ∈ d, c.isDigit = true) ∧ Nat.ofDigitChars 10 d 0 = v ∧ v < 2 ^ 64) ∧
      (ofText s = .error .empty ↔ t = []) ∧
      (ofText s = .error .tooLarge ↔ t ≠ [] ∧ 2 ^ 64 ≤ leading) ∧
      (ofText s = .error .invalidDigit ↔
        t ≠ [] ∧ leading < 2 ^ 64 ∧ ∃ c ∈ d, c.isDigit = false)) ∧
    ∀ id : Snowflake, ofText id.text = .ok id := by
  refine ⟨fun s => ?_, ofText_text⟩
  intro t d leading
  have hd : body s = d := dropPlus_eq t
  have hnil : d = [] ↔ t = [] := hd ▸ body_eq_nil_iff s
  refine ⟨Text.trims_trim s.toList, fun v => ?_, ?_, ?_, ?_⟩
  · constructor
    · rintro ⟨id, h, rfl⟩
      rw [ofText_eq_ok_iff, hd] at h
      exact ⟨h.1, h.2.1, h.2.2, id.raw.toNat_lt⟩
    · rintro ⟨filled, digits, hv, fits⟩
      have hraw : v.toUInt64.toNat = v := UInt64.toNat_ofNat_of_lt' fits
      refine ⟨⟨v.toUInt64⟩, ?_, hraw⟩
      rw [ofText_eq_ok_iff, hd]
      exact ⟨filled, digits, hv.trans hraw.symm⟩
  · rw [ofText_eq_empty_iff, hd, hnil]
  · rw [ofText_eq_tooLarge_iff, hd, Ne, hnil]
    exact Iff.rfl
  · rw [ofText_eq_invalidDigit_iff, hd, Ne, hnil]
    exact Iff.rfl

end Snowflake

end VoiceGateway
