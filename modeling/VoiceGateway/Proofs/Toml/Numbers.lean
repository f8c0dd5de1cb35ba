import VoiceGateway.Proofs.Decimal
import VoiceGateway.Proofs.Number.Binary64
import VoiceGateway.Toml.Reader
import VoiceGateway.Toml.Writer

/-!
# Written numbers are read back

A number does not say itself where it ends. On a line of its own it ends with the line:
no reader of numbers takes a line end for a part of a number, so a number is read there
as it is read alone (`readNumber_append`). Dates and times are tried first, and a text
without the marks that they need is none of them.

The texts of the doubles that are no ordinary numbers are read back as they are. That
the text of an ordinary number gives the number again is a matter of rounding, and a
hypothesis here.

> `readNumber_digits`: a whole number is read from its digits.
> `readNumber_writeFloat`: a double is read from its text, if ordinary numbers are.
> `readValue_number`: a value that is a number, at the end of a line.
-/

namespace VoiceGateway.Toml

/-! ## Up to the end of the line -/

theorem moreDigits_append {p : Char → Bool} (line : p '\n' = false) (mark : p '_' = false)
    (rest cs : List Char) :
    moreDigits p (cs ++ '\n' :: rest) =
      ((moreDigits p cs).1, (moreDigits p cs).2 ++ '\n' :: rest) := by
  induction cs using moreDigits.induct p with
  | case1 =>
    show moreDigits p ('\n' :: rest) = ([], '\n' :: rest)
    rw [moreDigits, line]
    · rfl
    · simp
  | case2 c cs digit _ _ _ ih =>
    show moreDigits p ('_' :: c :: (cs ++ '\n' :: rest)) = _
    rw [moreDigits, moreDigits, if_pos digit, if_pos digit, ih]
  | case3 c cs digit =>
    show moreDigits p ('_' :: c :: (cs ++ '\n' :: rest)) = _
    rw [moreDigits, moreDigits, if_neg digit, if_neg digit]
    rfl
  | case4 c cs other digit _ _ _ ih =>
    have hc : c ≠ '_' := by
      rintro rfl
      exact absurd (mark.symm.trans digit) (by simp)
    show moreDigits p (c :: (cs ++ '\n' :: rest)) = _
    rw [moreDigits, moreDigits, if_pos digit, if_pos digit, ih]
    · exact fun _ _ he => absurd he hc
    · exact fun _ _ he => absurd he hc
  | case5 c cs other digit =>
    rw [moreDigits.eq_3 p c cs other, if_neg digit]
    show moreDigits p (c :: (cs ++ '\n' :: rest)) = ([], c :: (cs ++ '\n' :: rest))
    by_cases hc : c = '_'
    · subst hc
      cases cs with
      | nil =>
        show moreDigits p ('_' :: '\n' :: rest) = _
        rw [moreDigits, line]
        rfl
      | cons d cs => exact absurd rfl (other d cs rfl)
    · rw [moreDigits, if_neg digit]
      simp [hc]

theorem readDigits_append {p : Char → Bool} (line : p '\n' = false) (mark : p '_' = false)
    {cs ds r : List Char} (h : readDigits p cs = some (ds, r)) (rest : List Char) :
    readDigits p (cs ++ '\n' :: rest) = some (ds, r ++ '\n' :: rest) := by
  cases cs with
  | nil => exact absurd h (by simp [readDigits])
  | cons c cs =>
    show readDigits p (c :: (cs ++ '\n' :: rest)) = _
    simp only [readDigits] at h ⊢
    by_cases digit : p c = true
    · rw [if_pos digit] at h ⊢
      rw [moreDigits_append line mark]
      injection h with h
      injection h with hds hr
      rw [← hds, ← hr]
    · rw [if_neg digit] at h
      exact absurd h (by simp)

theorem readWhole_append {cs ds r : List Char} (h : readWhole cs = some (ds, r))
    (rest : List Char) : readWhole (cs ++ '\n' :: rest) = some (ds, r ++ '\n' :: rest) := by
  by_cases zero : ∃ t, cs = '0' :: t
  · obtain ⟨t, rfl⟩ := zero
    injection h with h
    injection h with hds hr
    rw [← hds, ← hr]
    rfl
  · have hread : ∀ l, (∀ t, l ≠ '0' :: t) → readWhole l = readDigits Char.isDigit l := by
      intro l hl
      unfold readWhole
      split
      · next t => exact absurd rfl (hl t)
      · rfl
    have hcs : ∀ t, cs ≠ '0' :: t := fun t he => zero ⟨t, he⟩
    rw [hread cs hcs] at h
    rw [hread _ fun t he => ?_]
    · exact readDigits_append (by decide) (by decide) h rest
    · cases cs with
      | nil => exact absurd (List.cons.inj he).1 (by decide)
      | cons c cs => exact hcs cs (by rw [(List.cons.inj he).1])

theorem readFraction_append {cs r : List Char} {f : Option (List Char)}
    (h : readFraction cs = some (f, r)) (rest : List Char) :
    readFraction (cs ++ '\n' :: rest) = some (f, r ++ '\n' :: rest) := by
  by_cases point : ∃ t, cs = '.' :: t
  · obtain ⟨t, rfl⟩ := point
    obtain ⟨⟨ds, r'⟩, hd, he⟩ := Option.map_eq_some_iff.mp h
    injection he with hf hr
    show (readDigits Char.isDigit (t ++ '\n' :: rest)).map _ = _
    rw [readDigits_append (by decide) (by decide) hd, ← hf, ← hr]
    rfl
  · have hread : ∀ l, (∀ t, l ≠ '.' :: t) → readFraction l = some (none, l) := by
      intro l hl
      unfold readFraction
      split
      · next t => exact absurd rfl (hl t)
      · rfl
    have hcs : ∀ t, cs ≠ '.' :: t := fun t he => point ⟨t, he⟩
    rw [hread cs hcs] at h
    injection h with h
    injection h with hf hr
    rw [hread _ fun t he => ?_, ← hf, ← hr]
    cases cs with
    | nil => exact absurd (List.cons.inj he).1 (by decide)
    | cons c cs => exact hcs cs (by rw [(List.cons.inj he).1])

theorem readSign_append (cs rest : List Char) :
    readSign (cs ++ '\n' :: rest) = ((readSign cs).1, (readSign cs).2 ++ '\n' :: rest) := by
  cases cs with
  | nil => rfl
  | cons c cs =>
    show readSign (c :: (cs ++ '\n' :: rest)) = _
    unfold readSign
    split
    · next he =>
      obtain ⟨rfl, rfl⟩ := List.cons.inj he
      rfl
    · next he =>
      obtain ⟨rfl, rfl⟩ := List.cons.inj he
      rfl
    · next plus minus =>
      have hplus : c ≠ '+' := fun hc => plus _ (by rw [hc])
      have hminus : c ≠ '-' := fun hc => minus _ (by rw [hc])
      split
      · next he => exact absurd (List.cons.inj he).1 hplus
      · next he => exact absurd (List.cons.inj he).1 hminus
      · rfl

theorem readPower_append {cs r : List Char} {n : Option Int} (h : readPower cs = some (n, r))
    (rest : List Char) : readPower (cs ++ '\n' :: rest) = some (n, r ++ '\n' :: rest) := by
  cases cs with
  | nil =>
    injection h with h
    injection h with hn hr
    rw [← hn, ← hr]
    rfl
  | cons c cs =>
    show readPower (c :: (cs ++ '\n' :: rest)) = _
    simp only [readPower] at h ⊢
    by_cases mark : c = 'e' ∨ c = 'E'
    · rw [if_pos mark] at h ⊢
      obtain ⟨⟨ds, r'⟩, hd, he⟩ := Option.map_eq_some_iff.mp h
      injection he with hn hr
      rw [readSign_append, readDigits_append (by decide) (by decide) hd, ← hn, ← hr]
      rfl
    · rw [if_neg mark] at h ⊢
      injection h with h
      injection h with hn hr
      rw [← hn, ← hr]
      rfl

/-- The number of a sign, digits, digits after the point and a power of ten. -/
def numeral? (negative : Bool) (whole : List Char) (fraction : Option (List Char))
    (power : Option Int) : Option Value :=
  if fraction.isNone ∧ power.isNone then integer? negative (Decimal.value whole)
  else float? negative whole (fraction.getD []) (power.getD 0)

/-- A number in base ten is read part by part. -/
theorem readDecimal_of {negative : Bool} {cs whole afterWhole afterFraction rest : List Char}
    {fraction : Option (List Char)} {power : Option Int}
    (hw : readWhole cs = some (whole, afterWhole))
    (hf : readFraction afterWhole = some (fraction, afterFraction))
    (hp : readPower afterFraction = some (power, rest)) :
    readDecimal negative cs = (numeral? negative whole fraction power).map (·, rest) := by
  unfold readDecimal numeral?
  simp only [hw, hf, hp, Option.bind_eq_bind, Option.bind_some]
  split
  · cases integer? negative (Decimal.value whole) <;> rfl
  · cases float? negative whole (fraction.getD []) (power.getD 0) <;> rfl

theorem of_readDecimal {negative : Bool} {cs rest : List Char} {v : Value}
    (h : readDecimal negative cs = some (v, rest)) :
    ∃ whole afterWhole fraction afterFraction power,
      readWhole cs = some (whole, afterWhole) ∧
      readFraction afterWhole = some (fraction, afterFraction) ∧
      readPower afterFraction = some (power, rest) ∧
      numeral? negative whole fraction power = some v := by
  cases hw : readWhole cs with
  | none =>
    unfold readDecimal at h
    rw [hw] at h
    exact absurd h (by simp)
  | some w =>
    obtain ⟨whole, afterWhole⟩ := w
    cases hf : readFraction afterWhole with
    | none =>
      unfold readDecimal at h
      simp [hw, hf] at h
    | some f =>
      obtain ⟨fraction, afterFraction⟩ := f
      cases hp : readPower afterFraction with
      | none =>
        unfold readDecimal at h
        simp [hw, hf, hp] at h
      | some p =>
        obtain ⟨power, r⟩ := p
        rw [readDecimal_of hw hf hp] at h
        obtain ⟨v', hv, he⟩ := Option.map_eq_some_iff.mp h
        injection he with hv' hr
        exact ⟨whole, afterWhole, fraction, afterFraction, power, rfl, hf, hr ▸ hp, hv' ▸ hv⟩

theorem readDecimal_append {negative : Bool} {cs r : List Char} {v : Value}
    (h : readDecimal negative cs = some (v, r)) (rest : List Char) :
    readDecimal negative (cs ++ '\n' :: rest) = some (v, r ++ '\n' :: rest) := by
  obtain ⟨whole, afterWhole, fraction, afterFraction, power, hw, hf, hp, hv⟩ := of_readDecimal h
  rw [readDecimal_of (readWhole_append hw rest) (readFraction_append hf rest)
    (readPower_append hp rest), hv]
  rfl

/-- What begins with neither word is a number in base ten. -/
theorem readUnsigned_eq {cs : List Char} (negative : Bool)
    (other : ∀ t, cs ≠ 'i' :: 'n' :: 'f' :: t ∧ cs ≠ 'n' :: 'a' :: 'n' :: t) :
    readUnsigned negative cs = readDecimal negative cs := by
  unfold readUnsigned
  split
  · next t => exact absurd rfl (other t).1
  · next t => exact absurd rfl (other t).2
  · rfl

theorem readUnsigned_append {negative : Bool} {cs r : List Char} {v : Value}
    (h : readUnsigned negative cs = some (v, r)) (rest : List Char) :
    readUnsigned negative (cs ++ '\n' :: rest) = some (v, r ++ '\n' :: rest) := by
  by_cases word : ∃ t, cs = 'i' :: 'n' :: 'f' :: t ∨ cs = 'n' :: 'a' :: 'n' :: t
  · obtain ⟨t, rfl | rfl⟩ := word
    · injection h with h
      injection h with hv hr
      rw [← hv, ← hr]
      rfl
    · injection h with h
      injection h with hv hr
      rw [← hv, ← hr]
      rfl
  · have other : ∀ t, cs ≠ 'i' :: 'n' :: 'f' :: t ∧ cs ≠ 'n' :: 'a' :: 'n' :: t :=
      fun t => ⟨fun he => word ⟨t, Or.inl he⟩, fun he => word ⟨t, Or.inr he⟩⟩
    rw [readUnsigned_eq negative other] at h
    have hd := readDecimal_append h rest
    rw [readUnsigned_eq negative fun t => ⟨fun he => ?_, fun he => ?_⟩]
    · exact hd
    -- Neither word begins with a digit, as the number does.
    · rw [he] at hd
      exact absurd hd (by simp [readDecimal, readWhole, readDigits])
    · rw [he] at hd
      exact absurd hd (by simp [readDecimal, readWhole, readDigits])

theorem isDigitIn_of_none {base : Nat} {c : Char} (h : Text.hexDigit? c = none) :
    isDigitIn base c = false := by
  unfold isDigitIn
  rw [h]

/-- What does not begin with a zero has a sign or none. -/
theorem readNumber_eq {cs : List Char} (other : ∀ mark t, cs ≠ '0' :: mark :: t) :
    readNumber cs = readUnsigned (readSign cs).1 (readSign cs).2 := by
  unfold readNumber
  split
  · next mark t => exact absurd rfl (other mark t)
  · rfl

/-- A number is read at the end of a line as it is read alone. -/
theorem readNumber_append {cs r : List Char} {v : Value} (h : readNumber cs = some (v, r))
    (rest : List Char) : readNumber (cs ++ '\n' :: rest) = some (v, r ++ '\n' :: rest) := by
  by_cases zero : ∃ mark t, cs = '0' :: mark :: t
  · obtain ⟨mark, t, rfl⟩ := zero
    show readNumber ('0' :: mark :: (t ++ '\n' :: rest)) = _
    simp only [readNumber] at h ⊢
    cases hbase : baseOf? mark with
    | none =>
      rw [hbase] at h
      exact readUnsigned_append h rest
    | some base =>
      simp only [hbase] at h
      cases hd : readDigits (isDigitIn base) t with
      | none =>
        rw [hd] at h
        exact absurd h (by simp)
      | some ds =>
        obtain ⟨ds, r'⟩ := ds
        rw [hd] at h
        obtain ⟨v', hv, he⟩ := Option.map_eq_some_iff.mp h
        injection he with hv' hr
        have hmore := readDigits_append (isDigitIn_of_none rfl) (isDigitIn_of_none rfl) hd rest
        simp only [hmore]
        rw [hv, ← hv', ← hr]
        rfl
  · have other : ∀ mark t, cs ≠ '0' :: mark :: t := fun mark t he => zero ⟨mark, t, he⟩
    rw [readNumber_eq other] at h
    have hu := readUnsigned_append h rest
    by_cases single : cs = ['0']
    · subst single
      exact hu
    · rw [readNumber_eq fun mark t he => ?_]
      · rw [readSign_append]
        exact hu
      · cases cs with
        | nil => exact absurd (List.cons.inj he).1 (by decide)
        | cons c cs =>
          have hc : c = '0' := (List.cons.inj he).1
          subst hc
          cases cs with
          | nil => exact single rfl
          | cons d cs => exact other d cs rfl

/-! ## Whole numbers -/

theorem moreDigits_of_digits {cs : List Char} (h : ∀ c ∈ cs, c.isDigit = true) :
    moreDigits Char.isDigit cs = (cs, []) := by
  induction cs with
  | nil => rfl
  | cons c cs ih =>
    have hc : c ≠ '_' := by
      rintro rfl
      exact absurd (h '_' List.mem_cons_self) (by decide)
    rw [moreDigits, if_pos (h c List.mem_cons_self),
      ih fun x hx => h x (List.mem_cons_of_mem c hx)]
    exact fun _ _ he => absurd he hc

/-- The digits of a number are read to their end. -/
theorem readWhole_digits (n : Nat) :
    readWhole (Decimal.digits n) = some (Decimal.digits n, []) := by
  by_cases zero : n = 0
  · rw [zero]
    rfl
  · obtain ⟨c, cs, hcs, hc⟩ := Decimal.digits_eq_cons zero
    have hall : ∀ x ∈ c :: cs, x.isDigit = true := fun x hx =>
      Decimal.isDigit_of_mem_digits (hcs ▸ hx)
    rw [hcs]
    unfold readWhole
    split
    · next he => exact absurd (List.cons.inj he).1 hc
    · simp only [readDigits]
      rw [if_pos (hall c List.mem_cons_self),
        moreDigits_of_digits fun x hx => hall x (List.mem_cons_of_mem c hx)]

/-- A whole number is read from its digits. -/
theorem readNumber_digits {n : Nat} (h : n < 0x8000000000000000) :
    readNumber (Decimal.digits n) = some (.integer n, []) := by
  have hdecimal : readDecimal false (Decimal.digits n) = some (.integer n, []) := by
    rw [readDecimal_of (readWhole_digits n) rfl rfl]
    unfold numeral? integer?
    rw [if_pos (by simp), Decimal.value_digits, if_neg (by simp), if_pos h]
    rfl
  have hdigit : ∀ c t, Decimal.digits n = c :: t → c.isDigit = true := fun c t he =>
    Decimal.isDigit_of_mem_digits (he ▸ List.mem_cons_self)
  have hword : ∀ c t, c.isDigit = false → Decimal.digits n ≠ c :: t :=
    fun c t hc he => absurd ((hdigit c t he).symm.trans hc) (by simp)
  rw [readNumber_eq]
  · have hsign : readSign (Decimal.digits n) = (false, Decimal.digits n) := by
      unfold readSign
      split
      · next t he => exact absurd he (hword _ _ (by decide))
      · next t he => exact absurd he (hword _ _ (by decide))
      · rfl
    rw [hsign, readUnsigned_eq]
    · exact hdecimal
    · exact fun t => ⟨hword _ _ (by decide), hword _ _ (by decide)⟩
  · intro mark t he
    by_cases zero : n = 0
    · rw [zero] at he
      exact absurd (List.cons.inj he).2 (by simp)
    · obtain ⟨c, cs, hcs, hc⟩ := Decimal.digits_eq_cons zero
      exact hc (List.cons.inj (hcs.symm.trans he)).1

/-! ## Neither date nor time -/

/-- A number of so many digits ends before the line does. -/
theorem readFixed_append {width : Nat} {cs rest r : List Char} {n : Nat}
    (h : readFixed width (cs ++ '\n' :: rest) = some (n, r)) :
    r = cs.drop width ++ '\n' :: rest := by
  unfold readFixed at h
  dsimp only at h
  split at h
  · next hds =>
    obtain ⟨-, hdigits⟩ := hds
    injection h with h
    injection h with hn hr
    have hlen : width ≤ cs.length := by
      refine Nat.le_of_not_lt fun hlt => ?_
      -- The line end would be one of the digits.
      have hmem : '\n' ∈ (cs ++ '\n' :: rest).take width := by
        rw [List.take_append, List.mem_append]
        refine Or.inr ?_
        obtain ⟨k, hk⟩ : ∃ k, width - cs.length = k + 1 := ⟨width - cs.length - 1, by omega⟩
        rw [hk]
        exact List.mem_cons_self
      exact absurd (List.all_eq_true.mp hdigits _ hmem) (by decide)
    rw [← hr, List.drop_append, Nat.sub_eq_zero_of_le hlen]
    rfl
  · exact absurd h (by simp)

/-- A mark that is not in the text is not found before its line ends. -/
theorem readChar_append {c : Char} {cs : List Char} (line : c ≠ '\n') (absent : c ∉ cs)
    (rest : List Char) : readChar c (cs ++ '\n' :: rest) = none := by
  cases cs with
  | nil => exact if_neg (Ne.symm line)
  | cons d cs =>
    have hd : d ≠ c := by
      rintro rfl
      exact absent List.mem_cons_self
    exact if_neg hd

theorem not_mem_drop {c : Char} {cs : List Char} (width : Nat) (pos : 0 < width)
    (absent : c ∉ cs.tail) : c ∉ cs.drop width := by
  obtain ⟨k, rfl⟩ : ∃ k, width = k + 1 := ⟨width - 1, by omega⟩
  rw [← List.drop_one] at absent
  intro hm
  rw [Nat.add_comm, ← List.drop_drop] at hm
  exact absent (List.mem_of_mem_drop hm)

theorem readTwo_append {low high n : Nat} {cs rest r : List Char}
    (h : readTwo low high (cs ++ '\n' :: rest) = some (n, r)) :
    r = cs.drop 2 ++ '\n' :: rest := by
  unfold readTwo at h
  cases hf : readFixed 2 (cs ++ '\n' :: rest) with
  | none =>
    rw [hf] at h
    exact absurd h (by simp)
  | some q =>
    obtain ⟨m, r'⟩ := q
    simp only [hf] at h
    split at h
    · injection h with h
      injection h with hn hr
      exact hr ▸ readFixed_append hf
    · exact absurd h (by simp)

/-- A text without dashes is no date. -/
theorem readDate_append {cs : List Char} (dash : '-' ∉ cs.tail) (rest : List Char) :
    readDate (cs ++ '\n' :: rest) = none := by
  unfold readDate
  cases hf : readFixed 4 (cs ++ '\n' :: rest) with
  | none => rfl
  | some p =>
    obtain ⟨year, r⟩ := p
    have hc := readChar_append (by decide) (not_mem_drop 4 (by decide) dash) rest
    show (readChar '-' r).bind _ = none
    rw [readFixed_append hf, hc]
    rfl

/-- A text without colons is no time. -/
theorem readTime_append {cs : List Char} (colon : ':' ∉ cs.tail) (rest : List Char) :
    readTime (cs ++ '\n' :: rest) = none := by
  unfold readTime
  cases ht : readTwo 0 23 (cs ++ '\n' :: rest) with
  | none => rfl
  | some p =>
    obtain ⟨hour, r⟩ := p
    have hc := readChar_append (by decide) (not_mem_drop 2 (by decide) colon) rest
    show (readChar ':' r).bind _ = none
    rw [readTwo_append ht, hc]
    rfl

theorem readMoment_append {cs : List Char} (dash : '-' ∉ cs.tail) (colon : ':' ∉ cs.tail)
    (rest : List Char) : readMoment (cs ++ '\n' :: rest) = none := by
  unfold readMoment
  simp only [readDate_append dash, readTime_append colon, Option.map_none]

/-! ## Values -/

/-- A text that could be a number: it begins like no other value, and has no mark of a date
or a time. -/
structure Numeric (cs : List Char) : Prop where
  head : ∀ c t, cs = c :: t → c ∉ ['"', '\x27', '[', '\x7b', 't', 'f', ' ', '\t']
  dash : '-' ∉ cs.tail
  colon : ':' ∉ cs.tail

/-- A number is a value, at the end of a line. -/
theorem readValue_number {cs : List Char} {v : Value} (h : readNumber cs = some (v, []))
    (numeric : Numeric cs) (depth : Nat) (rest : List Char) :
    readValue depth (cs ++ '\n' :: rest) = some (v, '\n' :: rest) := by
  have hmoment := readMoment_append numeric.dash numeric.colon rest
  have hnumber := readNumber_append h rest
  cases cs with
  | nil =>
    have hnone : readNumber [] = none := rfl
    exact absurd (hnone.symm.trans h) (by simp)
  | cons c cs =>
    have hc := numeric.head c cs rfl
    have hne : ∀ d ∈ ['"', '\x27', '[', '\x7b', 't', 'f', ' ', '\t'], c ≠ d :=
      fun d hd he => hc (he ▸ hd)
    rw [List.cons_append] at hmoment hnumber ⊢
    unfold readValue
    split
    · next he => exact absurd (List.cons.inj he).1 (hne _ (by simp))
    · next he => exact absurd (List.cons.inj he).1 (hne _ (by simp))
    · next he => exact absurd (List.cons.inj he).1 (hne _ (by simp))
    · next he => exact absurd (List.cons.inj he).1 (hne _ (by simp))
    · next he => exact absurd (List.cons.inj he).1 (hne _ (by simp))
    · next he => exact absurd (List.cons.inj he).1 (hne _ (by simp))
    · rw [hmoment]
      exact hnumber

/-- Digits and points make a text that could be a number, with a sign or without. -/
theorem numeric_of_digits {cs : List Char} (h : ∀ c ∈ cs, c.isDigit = true ∨ c = '.')
    (negative : Bool) : Numeric ((if negative then ['-'] else []) ++ cs) := by
  have hnot : ∀ c ∈ cs, ∀ d : Char, d.isDigit = false → d ≠ '.' → c ≠ d := by
    intro c hc d hd hp he
    subst he
    rcases h c hc with hdigit | hpoint
    · exact absurd (hdigit.symm.trans hd) (by simp)
    · exact hp hpoint
  cases negative with
  | true =>
    refine ⟨fun c t he => ?_, fun hm => ?_, fun hm => ?_⟩
    · rw [← (List.cons.inj he).1]
      decide
    · exact hnot _ hm '-' (by decide) (by decide) rfl
    · exact hnot _ hm ':' (by decide) (by decide) rfl
  | false =>
    refine ⟨fun c t he hm => ?_, fun hm => ?_, fun hm => ?_⟩
    · have hc : c ∈ cs := by
        rw [show cs = c :: t from he]
        exact List.mem_cons_self
      have hmarks : (['"', '\x27', '[', '\x7b', 't', 'f', ' ', '\t'].all
          fun d => !d.isDigit && d != '.') = true := by decide
      have hmark := List.all_eq_true.mp hmarks c hm
      rw [Bool.and_eq_true, Bool.not_eq_true', bne_iff_ne] at hmark
      exact hnot c hc c hmark.1 hmark.2 rfl
    · exact hnot _ (List.mem_of_mem_tail hm) '-' (by decide) (by decide) rfl
    · exact hnot _ (List.mem_of_mem_tail hm) ':' (by decide) (by decide) rfl

/-! ## Doubles -/

theorem positional_chars (s : Scaled) : ∀ c ∈ s.positional, c.isDigit = true ∨ c = '.' := by
  have digit : ∀ {c}, c ∈ Decimal.digits s.digits → c.isDigit = true ∨ c = '.' :=
    fun h => Or.inl (Decimal.isDigit_of_mem_digits h)
  have zero : ∀ {c n}, c ∈ List.replicate n '0' → c.isDigit = true ∨ c = '.' := by
    intro c n h
    rw [List.eq_of_mem_replicate h]
    exact Or.inl (by decide)
  intro c hc
  unfold Scaled.positional at hc
  dsimp only at hc
  split at hc
  · rcases List.mem_append.mp hc with h | h
    · rcases List.mem_append.mp h with h | h
      · exact digit h
      · exact zero h
    · rcases List.mem_cons.mp h with rfl | h
      · exact Or.inr rfl
      · rw [List.mem_singleton.mp h]
        exact Or.inl (by decide)
  · split at hc
    · rcases List.mem_append.mp hc with h | h
      · exact digit (List.mem_of_mem_take h)
      · rcases List.mem_cons.mp h with rfl | h
        · exact Or.inr rfl
        · exact digit (List.mem_of_mem_drop h)
    · rcases List.mem_cons.mp hc with rfl | h
      · exact Or.inl (by decide)
      · rcases List.mem_cons.mp h with rfl | h
        · exact Or.inr rfl
        · rcases List.mem_append.mp h with h | h
          · exact zero h
          · exact digit h

theorem writeFloat_nan {x : Float} (h : Binary64.ofFloat x = .nan) :
    writeFloat x = ['n', 'a', 'n'] := by
  unfold writeFloat FloatStyle.text
  rw [h]
  rfl

theorem writeFloat_infinite {x : Float} {negative : Bool}
    (h : Binary64.ofFloat x = .infinite negative) :
    writeFloat x = (if negative then ['-'] else []) ++ ['i', 'n', 'f'] := by
  unfold writeFloat FloatStyle.text
  rw [h]
  cases negative <;> rfl

theorem writeFloat_zero {x : Float} {d : Dyadic} (h : Binary64.ofFloat x = .finite d)
    (zero : d.significand = 0) :
    writeFloat x = (if d.negative then ['-'] else []) ++ ['0', '.', '0'] := by
  unfold writeFloat FloatStyle.text
  simp only [h, zero, if_true, String.toList_ofList]

theorem writeFloat_ordinary {x : Float} {d : Dyadic} (h : Binary64.ofFloat x = .finite d)
    (ordinary : d.significand ≠ 0) :
    writeFloat x = (if d.negative then ['-'] else []) ++ (d.shortest .up).positional := by
  unfold writeFloat FloatStyle.text
  simp only [h, if_neg ordinary, String.toList_ofList]
  rfl

theorem numeric_writeFloat (x : Float) : Numeric (writeFloat x) := by
  cases h : Binary64.ofFloat x with
  | nan =>
    rw [writeFloat_nan h]
    refine ⟨fun c t he => ?_, by decide, by decide⟩
    rw [← (List.cons.inj he).1]
    decide
  | infinite negative =>
    rw [writeFloat_infinite h]
    cases negative with
    | true =>
      refine ⟨fun c t he => ?_, by decide, by decide⟩
      rw [← (List.cons.inj he).1]
      decide
    | false =>
      refine ⟨fun c t he => ?_, by decide, by decide⟩
      rw [← (List.cons.inj he).1]
      decide
  | finite d =>
    by_cases zero : d.significand = 0
    · rw [writeFloat_zero h zero]
      have hchars : (['0', '.', '0'].all fun c => c.isDigit || c == '.') = true := by decide
      refine numeric_of_digits (fun c hc => ?_) d.negative
      have hchar := List.all_eq_true.mp hchars c hc
      rwa [Bool.or_eq_true, beq_iff_eq] at hchar
    · rw [writeFloat_ordinary h zero]
      exact numeric_of_digits (positional_chars _) d.negative

/-- The text of an ordinary double, neither zero nor infinite, reads as the double. -/
def ReadsBack (x : Float) : Prop :=
  ∀ d, Binary64.ofFloat x = .finite d → d.significand ≠ 0 →
    readNumber (writeFloat x) = some (.float x, [])

/-- A double is read from its text, also where it is no ordinary number. -/
theorem readNumber_writeFloat {x : Float} (ordinary : ReadsBack x) :
    readNumber (writeFloat x) = some (.float x, []) := by
  cases h : Binary64.ofFloat x with
  | nan =>
    rw [writeFloat_nan h, Binary64.eq_of_nan h]
    rfl
  | infinite negative =>
    rw [writeFloat_infinite h, Binary64.eq_of_infinite h]
    cases negative <;> rfl
  | finite d =>
    by_cases zero : d.significand = 0
    · rw [writeFloat_zero h zero, Binary64.eq_of_zero h zero]
      cases d.negative <;> rfl
    · exact ordinary d h zero

end VoiceGateway.Toml
