import VoiceGateway.Json.Draft

/-!
# The grammar of JSON

Which texts are JSON and what they say, stated without the reader: words, numbers,
strings, arrays and objects, with blanks around each of them. A string is written in
characters and in the code units of hexadecimal escapes, and a code unit that is half of a
surrogate pair says something only together with the other half.

What a text says is the draft of it, one in which no fault stands.

> `Spells`: the texts of values, of array items and of object members.
> `Source.object`, `Source.array`: the texts that are put together from others.
-/

namespace VoiceGateway.Json

/-! ## Numbers -/

/-- The whole part of a number: a zero alone, or digits that begin with another one. -/
inductive SpellsWhole : List Char → Prop
  | zero : SpellsWhole ['0']
  | digits {c : Char} {cs : List Char} (first : c ≠ '0')
      (digits : ∀ x ∈ c :: cs, x.isDigit = true) : SpellsWhole (c :: cs)

/-- The part of a number behind the point, with the point. -/
inductive SpellsFraction : List Char → Option (List Char) → Prop
  | none : SpellsFraction [] none
  | some {c : Char} {cs : List Char} (digits : ∀ x ∈ c :: cs, x.isDigit = true) :
      SpellsFraction ('.' :: c :: cs) (some (c :: cs))

/-- The power of ten of a number, with its mark and sign. -/
inductive SpellsPower : List Char → Option (Bool × List Char) → Prop
  | none : SpellsPower [] none
  | unsigned {e c : Char} {cs : List Char} (mark : e = 'e' ∨ e = 'E')
      (digits : ∀ x ∈ c :: cs, x.isDigit = true) :
      SpellsPower (e :: c :: cs) (some (false, c :: cs))
  | positive {e c : Char} {cs : List Char} (mark : e = 'e' ∨ e = 'E')
      (digits : ∀ x ∈ c :: cs, x.isDigit = true) :
      SpellsPower (e :: '+' :: c :: cs) (some (false, c :: cs))
  | negative {e c : Char} {cs : List Char} (mark : e = 'e' ∨ e = 'E')
      (digits : ∀ x ∈ c :: cs, x.isDigit = true) :
      SpellsPower (e :: '-' :: c :: cs) (some (true, c :: cs))

inductive SpellsNumeral : List Char → Numeral → Prop
  | unsigned {whole fs ps : List Char} {fraction : Option (List Char)}
      {power : Option (Bool × List Char)} (whole_spelled : SpellsWhole whole)
      (fraction_spelled : SpellsFraction fs fraction) (power_spelled : SpellsPower ps power) :
      SpellsNumeral (whole ++ (fs ++ ps)) ⟨false, whole, fraction, power⟩
  | negative {whole fs ps : List Char} {fraction : Option (List Char)}
      {power : Option (Bool × List Char)} (whole_spelled : SpellsWhole whole)
      (fraction_spelled : SpellsFraction fs fraction) (power_spelled : SpellsPower ps power) :
      SpellsNumeral ('-' :: (whole ++ (fs ++ ps))) ⟨true, whole, fraction, power⟩

/-- A whole number without a sign stands for itself. -/
theorem spelled_whole {cs : List Char} (whole : SpellsWhole cs) :
    SpellsNumeral cs ⟨false, cs, none, none⟩ := by
  have hnumeral := SpellsNumeral.unsigned whole .none .none
  rw [List.append_nil, List.append_nil] at hnumeral
  exact hnumeral

/-! ## Strings -/

/-- A piece of a string: a character, or the code unit of a hexadecimal escape. -/
inductive Piece where
  | char (c : Char)
  | unit (n : Nat)
deriving DecidableEq, Repr

inductive SpellsPiece : List Char → Piece → Prop
  | plain {c : Char} (printed : 0x20 ≤ c.toNat) (quote : c ≠ '"') (slash : c ≠ '\\') :
      SpellsPiece [c] (.char c)
  | short {letter c : Char} (escape : shortEscape? letter = some c) :
      SpellsPiece ['\\', letter] (.char c)
  | hex {c₁ c₂ c₃ c₄ : Char} {d₁ d₂ d₃ d₄ : Nat} (first : Text.hexDigit? c₁ = some d₁)
      (second : Text.hexDigit? c₂ = some d₂) (third : Text.hexDigit? c₃ = some d₃)
      (fourth : Text.hexDigit? c₄ = some d₄) :
      SpellsPiece ['\\', 'u', c₁, c₂, c₃, c₄] (.unit (((d₁ * 16 + d₂) * 16 + d₃) * 16 + d₄))

inductive SpellsPieces : List Char → List Piece → Prop
  | nil : SpellsPieces [] []
  | cons {cs cs' : List Char} {p : Piece} {ps : List Piece} (first : SpellsPiece cs p)
      (others : SpellsPieces cs' ps) : SpellsPieces (cs ++ cs') (p :: ps)

/-- Whether a code unit is the first half of a surrogate pair. -/
def isHigh (n : Nat) : Bool := 0xD800 ≤ n && n ≤ 0xDBFF

/-- Whether a code unit is the second half of a surrogate pair. -/
def isLow (n : Nat) : Bool := 0xDC00 ≤ n && n ≤ 0xDFFF

/-- The character of a surrogate pair. -/
def pairChar (high low : Nat) : Char :=
  Char.ofNat (0x10000 + (high - 0xD800) * 0x400 + (low - 0xDC00))

/-- What pieces say, after the first half of a surrogate pair if there is one. Half a pair
alone says nothing. -/
def said : Option Nat → List Piece → Option (List Char)
  | none, [] => some []
  | none, .char c :: ps => (said none ps).map (c :: ·)
  | none, .unit n :: ps =>
    if isHigh n then said (some n) ps
    else if isLow n then none
    else (said none ps).map (Char.ofNat n :: ·)
  | some high, .unit n :: ps =>
    if isLow n then (said none ps).map (pairChar high n :: ·) else none
  | some _, _ => none

/-- A string in quotes; without content if there is half a surrogate pair in it. -/
inductive SpellsText : List Char → Option String → Prop
  | quoted {cs : List Char} {ps : List Piece} (pieces : SpellsPieces cs ps) :
      SpellsText ('"' :: (cs ++ ['"'])) ((said none ps).map String.ofList)

/-! ## Values -/

/-- What the grammar gives texts to: a value, the items of an array, and the members of an
object, at least one of them. -/
inductive Phrase where
  | value (d : Draft)
  | items (d : Draft) (ds : List Draft)
  | members (m : Option String × Draft) (ms : List (Option String × Draft))

/-- A text of a phrase. -/
inductive Spells : List Char → Phrase → Prop
  | nullWord : Spells ['n', 'u', 'l', 'l'] (.value .null)
  | trueWord : Spells ['t', 'r', 'u', 'e'] (.value (.bool true))
  | falseWord : Spells ['f', 'a', 'l', 's', 'e'] (.value (.bool false))
  | number {cs : List Char} {n : Numeral} (numeral : SpellsNumeral cs n) :
      Spells cs (.value (.number n))
  | text {cs : List Char} {content : Option String} (text : SpellsText cs content) :
      Spells cs (.value (.text content))
  | emptyArray {blanks : List Char} (blank : ∀ c ∈ blanks, isSpace c = true) :
      Spells ('[' :: (blanks ++ [']'])) (.value (.array [] none))
  | array {cs : List Char} {d : Draft} {ds : List Draft} (items : Spells cs (.items d ds)) :
      Spells ('[' :: (cs ++ [']'])) (.value (.array (d :: ds) none))
  | emptyObject {blanks : List Char} (blank : ∀ c ∈ blanks, isSpace c = true) :
      Spells ('\x7b' :: (blanks ++ ['\x7d'])) (.value (.object [] .closed))
  | object {cs : List Char} {m : Option String × Draft} {ms : List (Option String × Draft)}
      (members : Spells cs (.members m ms)) :
      Spells ('\x7b' :: (cs ++ ['\x7d'])) (.value (.object (m :: ms) .closed))
  | blankBefore {c : Char} {cs : List Char} {d : Draft} (blank : isSpace c = true)
      (value : Spells cs (.value d)) : Spells (c :: cs) (.value d)
  | blankAfter {c : Char} {cs : List Char} {d : Draft} (blank : isSpace c = true)
      (value : Spells cs (.value d)) : Spells (cs ++ [c]) (.value d)
  | lastItem {cs : List Char} {d : Draft} (value : Spells cs (.value d)) :
      Spells cs (.items d [])
  | item {cs cs' : List Char} {d d' : Draft} {ds : List Draft} (value : Spells cs (.value d))
      (others : Spells cs' (.items d' ds)) : Spells (cs ++ ',' :: cs') (.items d (d' :: ds))
  | lastMember {cs cs' : List Char} {name : Option String} {d : Draft}
      (named : Spells cs (.value (.text name))) (value : Spells cs' (.value d)) :
      Spells (cs ++ ':' :: cs') (.members (name, d) [])
  | member {cs cs' cs'' : List Char} {name : Option String} {d : Draft}
      {m : Option String × Draft} {ms : List (Option String × Draft)}
      (named : Spells cs (.value (.text name))) (value : Spells cs' (.value d))
      (others : Spells cs'' (.members m ms)) :
      Spells (cs ++ ':' :: (cs' ++ ',' :: cs'')) (.members (name, d) (m :: ms))

/-! ## Texts put together -/

/-- A JSON text, with what it says. -/
structure Source where
  chars : List Char
  meaning : Draft
  spelled : Spells chars (.value meaning)

/-- A JSON text that is a string and may stand as a name. -/
structure Name where
  chars : List Char
  content : Option String
  spelled : Spells chars (.value (.text content))

/-- A member of an object: its name and its value. -/
structure Member where
  name : Name
  value : Source

namespace Member

def meaning (m : Member) : Option String × Draft := (m.name.content, m.value.meaning)

/-- The text of members, with colons and commas. -/
def charsOf : List Member → List Char
  | [] => []
  | [m] => m.name.chars ++ ':' :: m.value.chars
  | m :: n :: ms => m.name.chars ++ ':' :: (m.value.chars ++ ',' :: charsOf (n :: ms))

theorem spelled_charsOf (m : Member) (ms : List Member) :
    Spells (charsOf (m :: ms)) (.members m.meaning (ms.map meaning)) := by
  induction ms generalizing m with
  | nil => exact .lastMember m.name.spelled m.value.spelled
  | cons n ms ih => exact .member m.name.spelled m.value.spelled (ih n)

end Member

namespace Source

/-- The text of array items, with commas. -/
def charsOf : List Source → List Char
  | [] => []
  | [s] => s.chars
  | s :: t :: ss => s.chars ++ ',' :: charsOf (t :: ss)

theorem spelled_charsOf (s : Source) (ss : List Source) :
    Spells (charsOf (s :: ss)) (.items s.meaning (ss.map meaning)) := by
  induction ss generalizing s with
  | nil => exact .lastItem s.spelled
  | cons t ss ih => exact .item s.spelled (ih t)

/-- The text of an array with the given items. -/
def array (items : List Source) : Source where
  chars := '[' :: (charsOf items ++ [']'])
  meaning := .array (items.map meaning) none
  spelled := by
    cases items with
    | nil => exact .emptyArray fun _ h => absurd h List.not_mem_nil
    | cons s ss => exact .array (spelled_charsOf s ss)

/-- The text of an object with the given members. -/
def object (members : List Member) : Source where
  chars := '\x7b' :: (Member.charsOf members ++ ['\x7d'])
  meaning := .object (members.map Member.meaning) .closed
  spelled := by
    cases members with
    | nil => exact .emptyObject fun _ h => absurd h List.not_mem_nil
    | cons m ms => exact .object (Member.spelled_charsOf m ms)

end Source

end VoiceGateway.Json
