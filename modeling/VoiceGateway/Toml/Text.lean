import VoiceGateway.Text.Decimal
import VoiceGateway.Text.Hexadecimal

/-!
# TOML strings

The four kinds of string: between double quotes with escapes, between single
quotes without, and each of them in triple quotes over several lines. Every
reader goes through the characters one by one with a small state and returns
the content and what follows the closing quotes.

In triple quotes one or two quotes are content, and up to two of them may stand
directly before the closing three.
-/

namespace VoiceGateway.Toml

/-- Whether a character may stand in a comment or in a string as it is: no
control character but the tab. -/
def isPlain (c : Char) : Bool := c == '\t' || (0x20 ≤ c.toNat && c.toNat != 0x7f)

/-- Whether a character is a blank inside a line. -/
def isGap (c : Char) : Bool := c == ' ' || c == '\t'

/-- The character of a code point, if it is that of one. -/
def scalar? (n : Nat) : Option Char := if n.isValidChar then some (Char.ofNat n) else none

/-- The character that a one-letter escape stands for. -/
def shortEscape? : Char → Option Char
  | 'b' => some '\x08'
  | 't' => some '\t'
  | 'n' => some '\n'
  | 'f' => some '\x0c'
  | 'r' => some '\r'
  | '"' => some '"'
  | '\\' => some '\\'
  | _ => none

/-- The digits that a long escape asks for. -/
def escapeWidth? : Char → Option Nat
  | 'u' => some 4
  | 'U' => some 8
  | _ => none

/-- What the next character of a string means. -/
inductive TextPhase where
  | plain
  /-- After a backslash. -/
  | escape
  /-- Inside a hexadecimal escape: digits still to come, and the value so far. -/
  | hex (left value : Nat)
  /-- After so many quotes in a row. -/
  | quotes (count : Nat)
  /-- After a carriage return, which only goes with a line feed. -/
  | carriage
  /-- After a backslash and blanks: the line has to end. -/
  | lineEnd
  /-- The same after a carriage return. -/
  | lineEndReturn
  /-- Blanks and line ends are dropped until something else comes. -/
  | join
  /-- The same after a carriage return. -/
  | joinReturn
deriving DecidableEq, Repr

/-- The hexadecimal part of an escape: the phase that follows one more digit,
with the character it completes, if it does. -/
def hexStep (left value : Nat) (c : Char) : Option (TextPhase × Option Char) :=
  match Text.hexDigit? c with
  | none => none
  | some d =>
    if left ≤ 1 then (scalar? (value * 16 + d)).map fun e => (.plain, some e)
    else some (.hex (left - 1) (value * 16 + d), none)

/-- Reads the content of a string in double quotes and the closing quote; `acc`
holds the content so far, last character first. -/
def basicBody : TextPhase → List Char → List Char → Option (List Char × List Char)
  | _, _, [] => none
  | .escape, acc, c :: cs =>
    match escapeWidth? c, shortEscape? c with
    | some n, _ => basicBody (.hex n 0) acc cs
    | none, some e => basicBody .plain (e :: acc) cs
    | none, none => none
  | .hex left value, acc, c :: cs =>
    match hexStep left value c with
    | none => none
    | some (phase, none) => basicBody phase acc cs
    | some (phase, some e) => basicBody phase (e :: acc) cs
  | _, acc, c :: cs =>
    if c = '"' then some (acc.reverse, cs)
    else if c = '\\' then basicBody .escape acc cs
    else if isPlain c then basicBody .plain (c :: acc) cs
    else none

/-- Reads the content of a string in single quotes and the closing quote. -/
def literalBody : List Char → List Char → Option (List Char × List Char)
  | _, [] => none
  | acc, c :: cs =>
    if c = '\x27' then some (acc.reverse, cs)
    else if isPlain c then literalBody (c :: acc) cs
    else none

/-- The phase after a character of a string in triple quotes that is content or
begins something; `escapes` tells whether the backslash is special. -/
def blockStep (quote : Char) (escapes : Bool) (acc : List Char) (c : Char) :
    Option (TextPhase × List Char) :=
  if c = quote then some (.quotes 1, acc)
  else if c = '\\' ∧ escapes = true then some (.escape, acc)
  else if c = '\n' then some (.plain, c :: acc)
  else if c = '\r' then some (.carriage, acc)
  else if isPlain c then some (.plain, c :: acc)
  else none

/-- Reads the content of a string in triple quotes and the closing quotes. -/
def blockBody (quote : Char) (escapes : Bool) :
    TextPhase → List Char → List Char → Option (List Char × List Char)
  | .quotes n, acc, [] => if 3 ≤ n then some ((List.replicate (n - 3) quote ++ acc).reverse, [])
    else none
  | _, _, [] => none
  | .quotes n, acc, c :: cs =>
    if c = quote then
      -- A fifth quote in a row is the last of the closing three.
      if n = 4 then some ((quote :: quote :: acc).reverse, cs)
      else blockBody quote escapes (.quotes (n + 1)) acc cs
    else if 3 ≤ n then some ((List.replicate (n - 3) quote ++ acc).reverse, c :: cs)
    -- One or two quotes were content after all.
    else
      match blockStep quote escapes (List.replicate n quote ++ acc) c with
      | none => none
      | some (phase, acc') => blockBody quote escapes phase acc' cs
  | .plain, acc, c :: cs =>
    match blockStep quote escapes acc c with
    | none => none
    | some (phase, acc') => blockBody quote escapes phase acc' cs
  | .carriage, acc, c :: cs =>
    if c = '\n' then blockBody quote escapes .plain (c :: acc) cs else none
  | .escape, acc, c :: cs =>
    if isGap c then blockBody quote escapes .lineEnd acc cs
    else if c = '\n' then blockBody quote escapes .join acc cs
    else if c = '\r' then blockBody quote escapes .lineEndReturn acc cs
    else
      match escapeWidth? c, shortEscape? c with
      | some n, _ => blockBody quote escapes (.hex n 0) acc cs
      | none, some e => blockBody quote escapes .plain (e :: acc) cs
      | none, none => none
  | .hex left value, acc, c :: cs =>
    match hexStep left value c with
    | none => none
    | some (phase, none) => blockBody quote escapes phase acc cs
    | some (phase, some e) => blockBody quote escapes phase (e :: acc) cs
  | .lineEnd, acc, c :: cs =>
    if isGap c then blockBody quote escapes .lineEnd acc cs
    else if c = '\n' then blockBody quote escapes .join acc cs
    else if c = '\r' then blockBody quote escapes .lineEndReturn acc cs
    else none
  | .lineEndReturn, acc, c :: cs =>
    if c = '\n' then blockBody quote escapes .join acc cs else none
  | .join, acc, c :: cs =>
    if isGap c ∨ c = '\n' then blockBody quote escapes .join acc cs
    else if c = '\r' then blockBody quote escapes .joinReturn acc cs
    else
      match blockStep quote escapes acc c with
      | none => none
      | some (phase, acc') => blockBody quote escapes phase acc' cs
  | .joinReturn, acc, c :: cs =>
    if c = '\n' then blockBody quote escapes .join acc cs else none

/-- A line end right after the opening triple quotes is not content. -/
def dropLineEnd : List Char → List Char
  | '\n' :: cs => cs
  | '\r' :: '\n' :: cs => cs
  | cs => cs

/-- Reads a string on one line, for a key. -/
def readLineText : List Char → Option (List Char × List Char)
  | '"' :: cs => basicBody .plain [] cs
  | '\x27' :: cs => literalBody [] cs
  | _ => none

/-- Reads a string of any kind. -/
def readText : List Char → Option (List Char × List Char)
  | '"' :: '"' :: '"' :: cs => blockBody '"' true .plain [] (dropLineEnd cs)
  | '\x27' :: '\x27' :: '\x27' :: cs => blockBody '\x27' false .plain [] (dropLineEnd cs)
  | cs => readLineText cs

end VoiceGateway.Toml
