import VoiceGateway.Number.Shortest
import VoiceGateway.Toml.Value

/-!
# Writing TOML

Scalars and tables of scalars as TOML text. A string is written in the first
form it fits into: between double quotes if nothing in it needs an escape,
between single quotes, over several lines in triple double or triple single
quotes, and with escapes if all else fails. A form over several lines begins
with a line break when the string itself has one.

Doubles are always positional, with a point and no power of ten.
-/

namespace VoiceGateway.Toml

/-- How doubles are written: positional, with the fewest digits. -/
def floatStyle : FloatStyle := ⟨.up, none, "nan"⟩

/-- The length of the longest run of a character. -/
def longestRun (c : Char) (cs : List Char) : Nat :=
  (cs.foldl (fun (best, run) d =>
    if d = c then (max best (run + 1), run + 1) else (best, 0)) (0, 0)).1

/-- Whether a character has to be escaped wherever it stands: a control character
other than tab and line feed. -/
def needsCode (c : Char) : Bool :=
  (c.toNat < 0x20 && c != '\t' && c != '\n') || c.toNat == 0x7f

/-- A form of string. -/
structure TextForm where
  quote : Char
  /-- Over several lines, in triple quotes. -/
  block : Bool
  escapes : Bool
deriving DecidableEq, Repr

namespace TextForm

def basic : TextForm := ⟨'"', false, true⟩

def literal : TextForm := ⟨'\x27', false, false⟩

def basicBlock : TextForm := ⟨'"', true, true⟩

def literalBlock : TextForm := ⟨'\x27', true, false⟩

/-- Whether a string can be written in this form with no escape but that of the tab. -/
def fits (f : TextForm) (cs : List Char) : Bool :=
  !cs.any needsCode && !(f.escapes && cs.contains '\\') &&
    (if f.block then longestRun f.quote cs ≤ 2
      else !cs.contains f.quote && !cs.contains '\n')

/-- The form a string is written in. -/
def choose (cs : List Char) : TextForm :=
  match [basic, literal, basicBlock, literalBlock].find? (·.fits cs) with
  | some f => f
  | none => if cs.contains '\n' then basicBlock else basic

/-- The escape of a character in a form with escapes, if it needs one; `run`
quotes stand before it. -/
def escape? (f : TextForm) (run : Nat) (c : Char) : Option (List Char) :=
  match c with
  | '\x08' => some ['\\', 'b']
  | '\t' => some ['\\', 't']
  | '\x0c' => some ['\\', 'f']
  | '\r' => some ['\\', 'r']
  | '\\' => some ['\\', '\\']
  | '\n' => if f.block then none else some ['\\', 'n']
  -- Two quotes in a row close nothing in a block.
  | '"' => if f.block && run < 2 then none else some ['\\', '"']
  | c =>
    if needsCode c then
      some ['\\', 'u', '0', '0', (Nat.digitChar (c.toNat / 16)).toUpper,
        (Nat.digitChar (c.toNat % 16)).toUpper]
    else none

/-- The content of a string in a form with escapes. -/
def escapeAll (f : TextForm) (run : Nat) : List Char → List Char
  | [] => []
  | c :: cs =>
    match f.escape? run c with
    | some e => e ++ escapeAll f 0 cs
    | none => c :: escapeAll f (if c = '"' then run + 1 else 0) cs

/-- The quotes on either side. -/
def quotes (f : TextForm) : List Char := List.replicate (if f.block then 3 else 1) f.quote

/-- A string in this form. -/
def write (f : TextForm) (cs : List Char) : List Char :=
  f.quotes ++ (if f.block && cs.contains '\n' then ['\n'] else []) ++
    (if f.escapes then f.escapeAll 0 cs else cs) ++ f.quotes

end TextForm

/-- A string. -/
def writeText (s : String) : List Char := (TextForm.choose s.toList).write s.toList

/-- An integer; there is none beyond 64 bits with sign. -/
def writeInteger (n : Nat) : Option (List Char) :=
  if n < 0x8000000000000000 then some (Decimal.digits n) else none

def writeBool (b : Bool) : List Char := (if b then "true" else "false").toList

def writeFloat (x : Float) : List Char := (floatStyle.text x).toList

/-- A line with a key and a value. -/
def entryLine (key : String) (value : List Char) : List Char :=
  key.toList ++ " = ".toList ++ value ++ ['\n']

/-- A header line. -/
def headerLine (name : String) : List Char := '[' :: name.toList ++ [']', '\n']

end VoiceGateway.Toml
