import VoiceGateway.Text.Decimal

/-!
# JSON values and their texts

What the gateway writes is always a complete JSON value, built here and turned
into text in one of two forms: compact, with no blank at all, for everything
that travels or is logged, and indented for people.

In a string only what has to be escaped is: the quote, the backslash and the
control characters. All other characters stand as they are.
-/

namespace VoiceGateway

/-- A JSON value as the gateway writes them; its numbers are counts and ids. -/
inductive Json where
  | null
  | bool (b : Bool)
  | number (n : Nat)
  | text (s : String)
  | array (items : List Json)
  | object (members : List (String × Json))

namespace Json

/-- How one character stands in a JSON string. -/
def escapeChar (c : Char) : List Char :=
  match c with
  | '"' => ['\\', '"']
  | '\\' => ['\\', '\\']
  | '\x08' => ['\\', 'b']
  | '\t' => ['\\', 't']
  | '\n' => ['\\', 'n']
  | '\x0c' => ['\\', 'f']
  | '\r' => ['\\', 'r']
  | c =>
    if c.toNat < 0x20 then
      ['\\', 'u', '0', '0', Nat.digitChar (c.toNat / 16), Nat.digitChar (c.toNat % 16)]
    else [c]

/-- A string in quotes. -/
def quote (s : String) : List Char :=
  '"' :: s.toList.flatMap escapeChar ++ ['"']

/-- The word for a truth value. -/
def boolWord (b : Bool) : List Char := (if b then "true" else "false").toList

mutual

/-- The compact text of a value. -/
def compactChars : Json → List Char
  | .null => "null".toList
  | .bool b => boolWord b
  | .number n => Decimal.digits n
  | .text s => quote s
  | .array items => '[' :: compactItems items ++ [']']
  | .object members => '\x7b' :: compactMembers members ++ ['\x7d']

/-- Array items, separated by commas. -/
def compactItems : List Json → List Char
  | [] => []
  | [v] => compactChars v
  | v :: w :: vs => compactChars v ++ ',' :: compactItems (w :: vs)

/-- Object members, separated by commas. -/
def compactMembers : List (String × Json) → List Char
  | [] => []
  | [(k, v)] => quote k ++ ':' :: compactChars v
  | (k, v) :: m :: ms => quote k ++ ':' :: compactChars v ++ ',' :: compactMembers (m :: ms)

end

/-- The compact text of a value, as a string. -/
def compact (v : Json) : String := String.ofList v.compactChars

/-- A line break and the blanks that lead a line at the given depth. -/
def newline (depth : Nat) : List Char := '\n' :: List.replicate (2 * depth) ' '

mutual

/-- The text of a value with one item or member per line, indented by two blanks
for each level. -/
def indentedChars (depth : Nat) : Json → List Char
  | .null => "null".toList
  | .bool b => boolWord b
  | .number n => Decimal.digits n
  | .text s => quote s
  | .array [] => "[]".toList
  | .array (v :: vs) => '[' :: indentedItems (depth + 1) (v :: vs) ++ newline depth ++ [']']
  | .object [] => ['\x7b', '\x7d']
  | .object (m :: ms) =>
    '\x7b' :: indentedMembers (depth + 1) (m :: ms) ++ newline depth ++ ['\x7d']

/-- Array items, each on a line of its own. -/
def indentedItems (depth : Nat) : List Json → List Char
  | [] => []
  | [v] => newline depth ++ indentedChars depth v
  | v :: w :: vs => newline depth ++ indentedChars depth v ++ ',' :: indentedItems depth (w :: vs)

/-- Object members, each on a line of its own. -/
def indentedMembers (depth : Nat) : List (String × Json) → List Char
  | [] => []
  | [(k, v)] => newline depth ++ quote k ++ ':' :: ' ' :: indentedChars depth v
  | (k, v) :: m :: ms =>
    newline depth ++ quote k ++ ':' :: ' ' :: indentedChars depth v ++
      ',' :: indentedMembers depth (m :: ms)

end

/-- The indented text of a value, as a string. -/
def indented (v : Json) : String := String.ofList (v.indentedChars 0)

/-- A value that may be missing, written as null when it is. -/
def ofOption {α : Type} (write : α → Json) : Option α → Json
  | none => .null
  | some a => write a

end Json

end VoiceGateway
