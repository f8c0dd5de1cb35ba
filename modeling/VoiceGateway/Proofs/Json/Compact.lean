import VoiceGateway.Json.Value
import VoiceGateway.Proofs.Decimal
import VoiceGateway.Proofs.Json.Assembling

/-!
# Compact texts are JSON

What is written compactly of a value is a text of the grammar, and it says that value. Of a
string the control characters that have no letter of their own are written as their code
units, all other characters as themselves or in two letters.

> `spelled_quote`: a string in quotes says that string.
> `Source.compact`: the compact text of a value, which says the value.
-/

namespace VoiceGateway.Json

/-- The number that a count is written as. -/
def Numeral.ofNat (n : Nat) : Numeral := ⟨false, Decimal.digits n, none, none⟩

mutual

/-- The draft of a value that the text gives in full. -/
def toDraft : Json → Draft
  | .null => .null
  | .bool b => .bool b
  | .number n => .number (.ofNat n)
  | .text s => .text (some s)
  | .array items => .array (draftItems items) none
  | .object members => .object (draftMembers members) .closed

/-- The drafts of array items. -/
def draftItems : List Json → List Draft
  | [] => []
  | v :: vs => toDraft v :: draftItems vs

/-- The drafts of object members. -/
def draftMembers : List (String × Json) → List (Option String × Draft)
  | [] => []
  | (k, v) :: ms => (some k, toDraft v) :: draftMembers ms

end

/-! ## Numbers -/

theorem spelled_digits (n : Nat) : SpellsNumeral (Decimal.digits n) (.ofNat n) := by
  have hwhole : SpellsWhole (Decimal.digits n) := by
    by_cases zero : n = 0
    · subst zero
      exact .zero
    · obtain ⟨c, cs, hcs, hc⟩ := Decimal.digits_eq_cons zero
      rw [hcs]
      exact .digits hc fun x hx => Decimal.isDigit_of_mem_digits (hcs ▸ hx)
  exact spelled_whole hwhole

/-! ## Strings -/

/-- A control character is written as its code unit. -/
theorem spelled_control {c : Char} (control : c.toNat < 0x20) :
    SpellsPiece ['\\', 'u', '0', '0', Nat.digitChar (c.toNat / 16), Nat.digitChar (c.toNat % 16)]
      (.unit c.toNat) := by
  have h := SpellsPiece.hex (show Text.hexDigit? '0' = some 0 from rfl)
    (show Text.hexDigit? '0' = some 0 from rfl)
    (Text.hexDigit?_digitChar (n := c.toNat / 16) (by omega))
    (Text.hexDigit?_digitChar (n := c.toNat % 16) (by omega))
  have hunit : ((0 * 16 + 0) * 16 + c.toNat / 16) * 16 + c.toNat % 16 = c.toNat := by omega
  rw [hunit] at h
  exact h

/-- A code unit below the surrogates is a character of its own. -/
theorem said_unit {n : Nat} (h : n < 0xD800) (ps : List Piece) :
    said none (.unit n :: ps) = (said none ps).map (Char.ofNat n :: ·) := by
  have high : isHigh n = false := by
    unfold isHigh
    rw [decide_eq_false (by omega)]
    rfl
  have low : isLow n = false := by
    unfold isLow
    rw [decide_eq_false (by omega)]
    rfl
  simp [said, high, low]

/-- How a character stands in a string is a piece that says this character. -/
theorem spelled_escapeChar (c : Char) :
    ∃ p, SpellsPiece (escapeChar c) p ∧
      ∀ ps, said none (p :: ps) = (said none ps).map (c :: ·) := by
  unfold escapeChar
  split
  case h_8 hquote hslash _ _ _ _ _ =>
    by_cases control : c.toNat < 0x20
    · rw [if_pos control]
      refine ⟨.unit c.toNat, spelled_control control, fun ps => ?_⟩
      rw [said_unit (by omega), Char.ofNat_toNat]
    · rw [if_neg control]
      exact ⟨.char c, .plain (Nat.le_of_not_lt control) hquote hslash, fun ps => rfl⟩
  -- The others are written as a backslash and a letter.
  all_goals exact ⟨.char _, .short rfl, fun ps => rfl⟩

theorem spelled_escaped (cs : List Char) :
    ∃ ps, SpellsPieces (cs.flatMap escapeChar) ps ∧ said none ps = some cs := by
  induction cs with
  | nil => exact ⟨[], .nil, rfl⟩
  | cons c cs ih =>
    obtain ⟨p, first, meaning⟩ := spelled_escapeChar c
    obtain ⟨ps, others, hps⟩ := ih
    refine ⟨p :: ps, ?_, ?_⟩
    · rw [List.flatMap_cons]
      exact .cons first others
    · rw [meaning, hps]
      rfl

/-- A string in quotes says that string. -/
theorem spelled_quote (s : String) : SpellsText (quote s) (some s) := by
  obtain ⟨ps, pieces, meaning⟩ := spelled_escaped s.toList
  have h := SpellsText.quoted pieces
  rw [meaning, Option.map_some, String.ofList_toList] at h
  exact h

/-! ## Values -/

mutual

/-- A compact text says its value. -/
theorem spelled_compact (v : Json) : Spells v.compactChars (.value v.toDraft) := by
  match v with
  | .null => exact .nullWord
  | .bool true => exact .trueWord
  | .bool false => exact .falseWord
  | .number n => exact .number (spelled_digits n)
  | .text s => exact .text (spelled_quote s)
  | .array [] => exact .emptyArray fun _ h => absurd h List.not_mem_nil
  | .array (v :: vs) => exact .array (spelled_items (v :: vs) rfl)
  | .object [] => exact .emptyObject fun _ h => absurd h List.not_mem_nil
  | .object (m :: ms) => exact .object (spelled_members (m :: ms) rfl)

theorem spelled_items (items : List Json) {d : Draft} {ds : List Draft}
    (drafts : draftItems items = d :: ds) : Spells (compactItems items) (.items d ds) := by
  match items with
  | [] => exact absurd drafts (by simp [draftItems])
  | [v] =>
    cases drafts
    exact .lastItem (spelled_compact v)
  | v :: w :: vs =>
    cases drafts
    exact .item (spelled_compact v) (spelled_items (w :: vs) rfl)

theorem spelled_members (members : List (String × Json)) {d : Option String × Draft}
    {ds : List (Option String × Draft)} (drafts : draftMembers members = d :: ds) :
    Spells (compactMembers members) (.members d ds) := by
  match members with
  | [] => exact absurd drafts (by simp [draftMembers])
  | [(k, v)] =>
    cases drafts
    exact .lastMember (.text (spelled_quote k)) (spelled_compact v)
  | (k, v) :: m :: ms =>
    cases drafts
    have h := Spells.member (.text (spelled_quote k)) (spelled_compact v)
      (spelled_members (m :: ms) rfl)
    unfold compactMembers
    rw [List.append_assoc]
    exact h

end

/-- The compact text of a value, which says the value. -/
def Source.compact (v : Json) : Source := ⟨v.compactChars, v.toDraft, spelled_compact v⟩

/-- The name that a string is in quotes. -/
def Name.quoted (s : String) : Name := ⟨quote s, some s, .text (spelled_quote s)⟩

theorem decode_compact {α : Type} (decoder : Decoder α) (v : Json) :
    decode decoder v.compact = decoder v.toDraft := decode_source decoder (.compact v)

end VoiceGateway.Json
