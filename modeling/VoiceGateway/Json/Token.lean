import VoiceGateway.Text.Decimal
import VoiceGateway.Text.Hexadecimal

/-!
# JSON tokens

The first stage of reading JSON: a machine that goes through the text one
character at a time and emits tokens. It never looks back, and looks ahead only
to see whether four bytes are left for a hexadecimal escape.

A text can break off inside a token. Readers treat a value they keep and one
they skip over differently in two places: a lone surrogate is a fault only in a
string that is kept, and a number that the text ends in is cut short for one
reader and malformed for the other. A broken token therefore carries both
verdicts.

> `scan_cons`: each character is read once and the rest of the text does not
> change what it emits, except for the four bytes of look-ahead.
-/

namespace VoiceGateway.Json

/-- The two ways in which a text is not JSON: it ends too early, or it goes
wrong somewhere. -/
inductive Fault where
  | truncated
  | malformed
deriving DecidableEq, Repr

/-- A number as it stands in the text. -/
structure Numeral where
  negative : Bool
  whole : List Char
  fraction : Option (List Char)
  /-- Whether the power of ten is negative, and its digits. -/
  power : Option (Bool × List Char)
deriving DecidableEq, Repr

inductive Token where
  | openArray
  | closeArray
  | openObject
  | closeObject
  | comma
  | colon
  | null
  | bool (b : Bool)
  | number (n : Numeral)
  /-- A string; there is no content if a surrogate in it has no partner. -/
  | text (content : Option String)
  /-- A string that breaks off, with the fault for a reader that keeps it and
  for one that skips it. -/
  | brokenText (kept skipped : Fault)
  /-- A number or word that breaks off. -/
  | broken (kept skipped : Fault)
  /-- A character that begins no token. -/
  | stray
deriving DecidableEq, Repr

/-! ## Strings -/

/-- What the next character of a string means. -/
inductive TextPhase where
  | plain
  | escape
  /-- Inside a hexadecimal escape: how many digits are still to come, and the
  value of those seen. -/
  | hex (left value : Nat)
deriving DecidableEq, Repr

/-- The part of a string read so far. -/
structure TextState where
  /-- The characters, last one first. -/
  chars : List Char := []
  /-- The first half of a surrogate pair, waiting for its partner. -/
  high : Option Nat := none
  /-- Whether a surrogate without a partner has been met. -/
  lone : Bool := false
  phase : TextPhase := .plain
deriving DecidableEq, Repr

namespace TextState

/-- A string that breaks off with a fault. A lone surrogate before it is what a
reader that keeps the string has met first. -/
def breakOff (st : TextState) (f : Fault) : Token :=
  .brokenText (if st.lone then .malformed else f) f

/-- Notes that a waiting first half will not get its partner. -/
def dropHigh (st : TextState) : TextState :=
  match st.high with
  | none => st
  | some _ => { st with high := none, lone := true }

/-- Appends a character. -/
def push (st : TextState) (c : Char) : TextState :=
  { st.dropHigh with chars := c :: st.dropHigh.chars, phase := .plain }

/-- Takes in the code unit of a complete hexadecimal escape. -/
def unit (st : TextState) (n : Nat) : TextState :=
  let isHigh := 0xD800 ≤ n && n ≤ 0xDBFF
  let isLow := 0xDC00 ≤ n && n ≤ 0xDFFF
  match st.high with
  | some h =>
    if isLow then
      { st with
        chars := Char.ofNat (0x10000 + (h - 0xD800) * 0x400 + (n - 0xDC00)) :: st.chars
        high := none, phase := .plain }
    else { st.dropHigh with phase := .plain }
  | none =>
    if isHigh then { st with high := some n, phase := .plain }
    else if isLow then { st with lone := true, phase := .plain }
    else { st with chars := Char.ofNat n :: st.chars, phase := .plain }

/-- The token of a string that has just been closed. -/
def close (st : TextState) : Token :=
  .text (if st.dropHigh.lone then none else some (String.ofList st.chars.reverse))

end TextState

/-- Whether at least four bytes follow. -/
def fourBytesLeft (cs : List Char) : Bool :=
  4 ≤ (cs.take 4).foldl (fun bytes c => bytes + c.utf8Size) 0

/-- The character that a one-letter escape stands for. -/
def shortEscape? : Char → Option Char
  | '"' => some '"'
  | '\\' => some '\\'
  | '/' => some '/'
  | 'b' => some '\x08'
  | 'f' => some '\x0c'
  | 'n' => some '\n'
  | 'r' => some '\r'
  | 't' => some '\t'
  | _ => none

/-! ## Numbers -/

/-- How far a number has been read. -/
inductive NumberPhase where
  | sign
  | zero
  | whole
  | point
  | fraction
  | mark
  | markSign
  | power
deriving DecidableEq, Repr

/-- The part of a number read so far; digits are kept last one first. -/
structure NumberState where
  negative : Bool := false
  whole : List Char := []
  fraction : List Char := []
  powerNegative : Bool := false
  power : List Char := []
  hasFraction : Bool := false
  hasPower : Bool := false
  phase : NumberPhase
deriving DecidableEq, Repr

namespace NumberState

/-- The number read. -/
def numeral (st : NumberState) : Numeral :=
  { negative := st.negative
    whole := st.whole.reverse
    fraction := if st.hasFraction then some st.fraction.reverse else none
    power := if st.hasPower then some (st.powerNegative, st.power.reverse) else none }

/-- Whether the number may end here. -/
def mayEnd (st : NumberState) : Bool :=
  match st.phase with
  | .zero | .whole | .fraction | .power => true
  | .sign | .point | .mark | .markSign => false

/-- The state after one more character that belongs to the number. -/
def next? (st : NumberState) (c : Char) : Option NumberState :=
  match st.phase with
  | .sign =>
    if c = '0' then some { st with whole := ['0'], phase := .zero }
    else if c.isDigit then some { st with whole := [c], phase := .whole }
    else none
  | .zero =>
    if c = '.' then some { st with hasFraction := true, phase := .point }
    else if c = 'e' ∨ c = 'E' then some { st with hasPower := true, phase := .mark }
    else none
  | .whole =>
    if c.isDigit then some { st with whole := c :: st.whole }
    else if c = '.' then some { st with hasFraction := true, phase := .point }
    else if c = 'e' ∨ c = 'E' then some { st with hasPower := true, phase := .mark }
    else none
  | .point =>
    if c.isDigit then some { st with fraction := [c], phase := .fraction } else none
  | .fraction =>
    if c.isDigit then some { st with fraction := c :: st.fraction }
    else if c = 'e' ∨ c = 'E' then some { st with hasPower := true, phase := .mark }
    else none
  | .mark =>
    if c = '+' then some { st with phase := .markSign }
    else if c = '-' then some { st with powerNegative := true, phase := .markSign }
    else if c.isDigit then some { st with power := [c], phase := .power }
    else none
  | .markSign =>
    if c.isDigit then some { st with power := [c], phase := .power } else none
  | .power =>
    if c.isDigit then some { st with power := c :: st.power } else none

end NumberState

/-! ## The machine -/

/-- What the machine is in the middle of. -/
inductive Mode where
  | between
  | text (st : TextState)
  | number (st : NumberState)
  /-- A word: the letters still to come, and what it will stand for. -/
  | word (left : List Char) (token : Token)
deriving DecidableEq, Repr

/-- The effect of one character: tokens, and the mode to go on in unless the
text has gone wrong. -/
structure Step where
  tokens : List Token
  mode : Option Mode
deriving DecidableEq, Repr

/-- Emits tokens and stops. -/
def Step.stop (t : Token) : Step := ⟨[t], none⟩

/-- Goes on in a mode without emitting anything. -/
def Step.go (m : Mode) : Step := ⟨[], some m⟩

/-- Emits one token and is between tokens again. -/
def Step.emit (t : Token) : Step := ⟨[t], some .between⟩

/-- Whether a character separates tokens. -/
def isSpace (c : Char) : Bool := c == ' ' || c == '\n' || c == '\t' || c == '\r'

/-- Reads a character between tokens. -/
def start (c : Char) : Step :=
  if isSpace c then .go .between
  else
    match c with
    | '[' => .emit .openArray
    | ']' => .emit .closeArray
    | '\x7b' => .emit .openObject
    | '\x7d' => .emit .closeObject
    | ',' => .emit .comma
    | ':' => .emit .colon
    | '"' => .go (.text {})
    | '-' => .go (.number { negative := true, phase := .sign })
    | '0' => .go (.number { whole := ['0'], phase := .zero })
    | 'n' => .go (.word "ull".toList .null)
    | 't' => .go (.word "rue".toList (.bool true))
    | 'f' => .go (.word "alse".toList (.bool false))
    | c =>
      if c.isDigit then .go (.number { whole := [c], phase := .whole })
      else .stop .stray

/-- Reads a character inside a string; `rest` is what follows it. -/
def TextState.step (st : TextState) (c : Char) (rest : List Char) : Step :=
  match st.phase with
  | .plain =>
    if c = '"' then .emit st.close
    else if c = '\\' then .go (.text { st with phase := .escape })
    else if c.toNat < 0x20 then .stop (st.dropHigh.breakOff .malformed)
    else .go (.text (st.push c))
  | .escape =>
    if c = 'u' then
      -- Too little text for the digits is a text cut short, whatever it holds.
      if fourBytesLeft rest then .go (.text { st with phase := .hex 4 0 })
      else .stop (st.breakOff .truncated)
    else
      match shortEscape? c with
      | some e => .go (.text (st.push e))
      | none => .stop (st.breakOff .malformed)
  | .hex left value =>
    match Text.hexDigit? c with
    | none => .stop (st.breakOff .malformed)
    | some d =>
      if left ≤ 1 then .go (.text (st.unit (value * 16 + d)))
      else .go (.text { st with phase := .hex (left - 1) (value * 16 + d) })

/-- Reads a character inside or at the end of a number. -/
def NumberState.step (st : NumberState) (c : Char) : Step :=
  match st.next? c with
  | some st' => .go (.number st')
  | none =>
    -- The character begins what comes after the number; a digit after a zero does not.
    if st.mayEnd && !(st.phase == .zero && c.isDigit) then
      let s := start c
      { s with tokens := .number st.numeral :: s.tokens }
    else .stop (.broken .malformed .malformed)

/-- Reads one character. -/
def Mode.step (m : Mode) (c : Char) (rest : List Char) : Step :=
  match m with
  | .between => start c
  | .text st => st.step c rest
  | .number st => st.step c
  | .word [] t =>
    let s := start c
    { s with tokens := t :: s.tokens }
  | .word (l :: left) t =>
    if c = l then
      if left.isEmpty then .emit t else .go (.word left t)
    else .stop (.broken .malformed .malformed)

/-- What is emitted where the text ends. -/
def Mode.finish : Mode → List Token
  | .between => []
  | .text st => [st.breakOff .truncated]
  | .number st => if st.mayEnd then [.number st.numeral] else [.broken .truncated .malformed]
  | .word _ _ => [.broken .truncated .truncated]

/-- Goes through the text from a given mode. -/
def scan : Mode → List Char → List Token
  | m, [] => m.finish
  | m, c :: cs =>
    let s := m.step c cs
    match s.mode with
    | some m' => s.tokens ++ scan m' cs
    | none => s.tokens

theorem scan_cons (m : Mode) (c : Char) (cs : List Char) :
    scan m (c :: cs) =
      (m.step c cs).tokens ++ ((m.step c cs).mode.map (scan · cs)).getD [] := by
  rw [scan]
  split <;> simp_all

/-- The tokens of a text. -/
def tokens (cs : List Char) : List Token := scan .between cs

end VoiceGateway.Json
