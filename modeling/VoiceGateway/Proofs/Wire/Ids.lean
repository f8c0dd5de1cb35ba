import VoiceGateway.Proofs.Json.Lone
import VoiceGateway.Proofs.Snowflake
import VoiceGateway.Proofs.Wire.RoundTrip

/-!
# How ids are decoded

Which JSON texts are taken as an id: a number without a sign, a fraction and a power of ten
that fits into 64 bits, and a string that is the text of an id. Both say a number
(`Draft.Denotes`), and the id is that number. What is written of an id is always the string.

A number of 64 bits is kept as an integer as soon as it has no sign and no other part, so
there is no bound at which it would turn into a double before `2 ^ 64`.

> `value_eq_unsigned_iff`: the numbers that are kept as unsigned integers.
> `decodeSnowflake_eq_ok_iff`: what says an id, and which.
> `id_acceptance`: the verdict on every text.
-/

namespace VoiceGateway.Json

/-- The number that a value says as an id. -/
inductive Draft.Denotes : Draft → Nat → Prop
  | number {ds : List Char} : Denotes (.number ⟨false, ds, none, none⟩) (Decimal.value ds)
  | text {s : String} {id : Snowflake} (reads : Snowflake.ofText s = .ok id) :
      Denotes (.text (some s)) id.raw.toNat

/-- What is no id: a number with a sign, even of zero, with a fraction or a power of ten, or
too large; and what is neither a number nor a string. -/
inductive Draft.NoId : Draft → Prop
  | null : NoId .null
  | bool {b : Bool} : NoId (.bool b)
  | array {items : List Draft} {cut : Option Fault} : NoId (.array items cut)
  | object {members : List (Option String × Draft)} {ending : Ending} :
      NoId (.object members ending)
  | signed {n : Numeral} (negative : n.negative = true) : NoId (.number n)
  | fraction {n : Numeral} (fraction : n.fraction ≠ none) : NoId (.number n)
  | power {n : Numeral} (power : n.power ≠ none) : NoId (.number n)
  | large {n : Numeral} (large : 2 ^ 64 ≤ Decimal.value n.whole) : NoId (.number n)

/-! ## Numbers -/

theorem Numeral.value_eq_unsigned_iff (n : Numeral) (v : Nat) :
    n.value = .ok (.unsigned v) ↔
      n = ⟨false, n.whole, none, none⟩ ∧ Decimal.value n.whole = v ∧ v < 2 ^ 64 := by
  obtain ⟨negative, whole, fraction, power⟩ := n
  unfold value
  dsimp only
  constructor
  · intro h
    by_cases kept : (fraction.isNone && power.isNone && if negative = true then
        decide (0 < Decimal.value whole) && decide (Decimal.value whole ≤ 0x8000000000000000)
      else decide (Decimal.value whole < 0x10000000000000000)) = true
    · rw [if_pos kept] at h
      simp only [Bool.and_eq_true, Option.isNone_iff_eq_none] at kept
      obtain ⟨⟨rfl, rfl⟩, fits⟩ := kept
      cases negative with
      | true => cases h
      | false =>
        cases h
        exact ⟨rfl, rfl, of_decide_eq_true fits⟩
    · rw [if_neg kept] at h
      split at h <;> cases h
  · rintro ⟨hn, hv, fits⟩
    cases hn
    rw [hv, if_pos (by simpa using fits)]
    rfl

/-! ## Values -/

/-- What says an id, and which. -/
theorem decodeSnowflake_eq_ok_iff (d : Draft) (id : Snowflake) :
    decodeSnowflake d = .ok id ↔ d.Denotes id.raw.toNat := by
  constructor
  · intro h
    unfold decodeSnowflake at h
    split at h
    · next n =>
      split at h
      · cases h
      · next v hv =>
        obtain ⟨hn, hwhole, fits⟩ := (n.value_eq_unsigned_iff v).mp hv
        cases h
        rw [show v.toUInt64.toNat = v from UInt64.toNat_ofNat_of_lt' fits, ← hwhole, hn]
        exact .number
      · cases h
      · cases h
    · next s =>
      split at h
      · next id' hid =>
        cases h
        exact .text hid
      · cases h
    · cases h
  · intro h
    generalize hv : id.raw.toNat = v at h
    cases h with
    | @number ds =>
      have fits : Decimal.value ds < 2 ^ 64 := hv ▸ id.raw.toNat_lt
      unfold decodeSnowflake
      simp only [(Numeral.value_eq_unsigned_iff ⟨false, ds, none, none⟩ _).mpr ⟨rfl, rfl, fits⟩]
      rw [← hv]
      exact congrArg (fun raw => Except.ok (Snowflake.mk raw)) UInt64.ofNat_toNat
    | @text s id' reads =>
      have hid : id' = id := congrArg Snowflake.mk (UInt64.toNat_inj.mp hv.symm)
      unfold decodeSnowflake
      simp only [reads, hid]

/-- An id of each number below `2 ^ 64` that a value says. -/
theorem Draft.Denotes.decode {d : Draft} {v : Nat} (h : d.Denotes v) (fits : v < 2 ^ 64) :
    decodeSnowflake d = .ok ⟨v.toUInt64⟩ := by
  rw [decodeSnowflake_eq_ok_iff]
  show d.Denotes v.toUInt64.toNat
  rw [show v.toUInt64.toNat = v from UInt64.toNat_ofNat_of_lt' fits]
  exact h

theorem Draft.NoId.not_denotes {d : Draft} (h : d.NoId) {v : Nat} (fits : v < 2 ^ 64) :
    ¬ d.Denotes v := by
  intro hv
  cases hv with
  | number =>
    cases h with
    | signed negative => exact absurd negative (by simp)
    | fraction fraction => exact fraction rfl
    | power power => exact power rfl
    | large large => exact Nat.not_le.mpr fits large
  | text => cases h

/-! ## Texts -/

/-- What is decoded is all there is in the text. -/
theorem decode_eq_ok {α : Type} {decoder : Decoder α} {s : String} {a : α}
    (h : Json.decode decoder s = .ok a) : ∃ d, draft s.toList = (d, false) ∧ decoder d = .ok a := by
  unfold Json.decode at h
  generalize draft s.toList = read at h
  obtain ⟨d, trailing⟩ := read
  dsimp only at h
  split at h
  · cases h
  · next a' ha =>
    cases trailing with
    | true => cases h
    | false =>
      cases h
      exact ⟨d, rfl, ha⟩

/-- Whatever is taken as an id is a JSON text. -/
theorem source_of_id {s : String} {id : Snowflake} (h : Json.decode decodeSnowflake s = .ok id) :
    ∃ src : Source, String.ofList src.chars = s ∧ src.meaning.Denotes id.raw.toNat := by
  obtain ⟨d, hdraft, hd⟩ := decode_eq_ok h
  have denotes := (decodeSnowflake_eq_ok_iff d id).mp hd
  -- Only drafts of a number and of a string say one, and those are read off a whole text.
  have hsource : ∃ src : Source, src.chars = s.toList ∧ src.meaning = d := by
    generalize id.raw.toNat = v at denotes
    cases denotes with
    | number => exact source_of_number rfl ⟨rfl, rfl⟩ hdraft
    | text => exact source_of_text hdraft
  obtain ⟨src, hchars, hmeaning⟩ := hsource
  exact ⟨src, by rw [hchars, String.ofList_toList], hmeaning ▸ denotes⟩

/-- A string of digits in quotes has no escapes. -/
theorem quote_of_digits {ds : List Char} (digits : ∀ c ∈ ds, c.isDigit = true) :
    quote (String.ofList ds) = '"' :: ds ++ ['"'] := by
  have plain : ∀ c : Char, c.isDigit = true → escapeChar c = [c] := by
    intro c hc
    have hle : 48 ≤ c.toNat ∧ c.toNat ≤ 57 := by
      simp only [Char.isDigit, Bool.and_eq_true, decide_eq_true_eq] at hc
      exact hc
    unfold escapeChar
    split
    -- The seven cases before the last are characters that are no digits.
    case h_8 => rw [if_neg (by omega)]
    all_goals exact absurd hc (by decide)
  have hall : ds.flatMap escapeChar = ds := by
    induction ds with
    | nil => rfl
    | cons c ds ih =>
      obtain ⟨hc, hds⟩ := List.forall_mem_cons.mp digits
      rw [List.flatMap_cons, plain c hc, ih hds]
      rfl
  unfold quote
  rw [String.toList_ofList, hall]

/-- The text of an id in quotes. -/
theorem compact_text (id : Snowflake) :
    (Json.text id.text).compact = String.ofList ('"' :: Decimal.digits id.raw.toNat ++ ['"']) :=
  congrArg String.ofList (quote_of_digits fun _ => Decimal.isDigit_of_mem_digits)

/-- Every JSON text is decoded as the id that it says, if it says one, and refused otherwise.
A number says an id if it has no sign, no fraction, no power of ten and fits into 64 bits, and
a string does if its content is the text of an id.

* A text that is no JSON is never taken as an id.
* Two texts that say the same number, in whichever form, are the same id, and of every
  number below `2 ^ 64` the digits, alone and in quotes, are its id.
* An id is written as its digits in quotes, and that is decoded as the same id.
* Numbers with a sign, even of zero, with a fraction or a power of ten or of `2 ^ 64` and more
  are refused, and so are truth values, null, arrays and objects. -/
theorem id_acceptance :
    (∀ (src : Source) (id : Snowflake),
      decode decodeSnowflake (String.ofList src.chars) = .ok id ↔
        src.meaning.Denotes id.raw.toNat) ∧
    (∀ (s : String) (id : Snowflake), decode decodeSnowflake s = .ok id →
      ∃ src : Source, String.ofList src.chars = s ∧ src.meaning.Denotes id.raw.toNat) ∧
    (∀ (a b : Source) (v : Nat), a.meaning.Denotes v → b.meaning.Denotes v → v < 2 ^ 64 →
      ∃ id : Snowflake, id.raw.toNat = v ∧
        decode decodeSnowflake (String.ofList a.chars) = .ok id ∧
        decode decodeSnowflake (String.ofList b.chars) = .ok id) ∧
    (∀ v < 2 ^ 64, ∃ id : Snowflake, id.raw.toNat = v ∧
      decode decodeSnowflake (String.ofList (Decimal.digits v)) = .ok id ∧
      decode decodeSnowflake (String.ofList ('"' :: Decimal.digits v ++ ['"'])) = .ok id) ∧
    (∀ id : Snowflake,
      (Json.text id.text).compact = String.ofList ('"' :: Decimal.digits id.raw.toNat ++ ['"']) ∧
      decode decodeSnowflake (Json.text id.text).compact = .ok id) ∧
    ∀ src : Source, src.meaning.NoId →
      ∃ e, decode decodeSnowflake (String.ofList src.chars) = .error e := by
  have accepted : ∀ (src : Source) (id : Snowflake),
      decode decodeSnowflake (String.ofList src.chars) = .ok id ↔
        src.meaning.Denotes id.raw.toNat := by
    intro src id
    rw [decode_source, decodeSnowflake_eq_ok_iff]
  have written : ∀ id : Snowflake, decode decodeSnowflake (Json.text id.text).compact = .ok id := by
    intro id
    rw [decode_compact]
    exact decodeSnowflake_text id
  refine ⟨accepted, fun s id => source_of_id, ?_, ?_, fun id => ⟨compact_text id, written id⟩, ?_⟩
  · intro a b v ha hb fits
    refine ⟨⟨v.toUInt64⟩, UInt64.toNat_ofNat_of_lt' fits, ?_, ?_⟩
    · rw [decode_source, ha.decode fits]
    · rw [decode_source, hb.decode fits]
  · intro v fits
    have hv : v.toUInt64.toNat = v := UInt64.toNat_ofNat_of_lt' fits
    refine ⟨⟨v.toUInt64⟩, hv, ?_, ?_⟩
    · have denotes : (Draft.number (.ofNat v)).Denotes v := by
        have h := @Draft.Denotes.number (Decimal.digits v)
        rw [Decimal.value_digits] at h
        exact h
      exact (decode_compact decodeSnowflake (.number v)).trans (denotes.decode fits)
    · have h := written ⟨v.toUInt64⟩
      rw [compact_text, hv] at h
      exact h
  · intro src unfit
    cases h : decode decodeSnowflake (String.ofList src.chars) with
    | error e => exact ⟨e, rfl⟩
    | ok id => exact absurd ((accepted src id).mp h) (unfit.not_denotes id.raw.toNat_lt)

/-- The number 42, and the string of a plus sign and the same number among blanks and zeros. -/
theorem id_acceptance_of_two_forms :
    let number := Source.compact (.number 42)
    let string := Source.compact (.text " +0042 ")
    (∃ id : Snowflake, id.raw.toNat = 42 ∧
      decode decodeSnowflake (String.ofList number.chars) = .ok id ∧
      decode decodeSnowflake (String.ofList string.chars) = .ok id ∧
      ∃ src : Source, String.ofList src.chars = String.ofList string.chars ∧
        src.meaning.Denotes id.raw.toNat) ∧
    (∃ id : Snowflake, id.raw.toNat = 2 ^ 64 - 1 ∧
      decode decodeSnowflake (String.ofList (Decimal.digits (2 ^ 64 - 1))) = .ok id) ∧
    ∃ e, decode decodeSnowflake (String.ofList (Source.compact .null).chars) = .error e := by
  intro number string
  have hnumber : number.meaning.Denotes 42 := @Draft.Denotes.number ['4', '2']
  have hstring : string.meaning.Denotes 42 := @Draft.Denotes.text " +0042 " ⟨42⟩ rfl
  obtain ⟨-, sources, same, digits, -, refused⟩ := id_acceptance
  obtain ⟨id, hid, ha, hb⟩ := same number string 42 hnumber hstring (by decide)
  obtain ⟨largest, hlargest, hdigits, -⟩ := digits (2 ^ 64 - 1) (by decide)
  exact ⟨⟨id, hid, ha, hb, sources _ id hb⟩, ⟨largest, hlargest, hdigits⟩,
    refused (Source.compact .null) .null⟩

end VoiceGateway.Json
