import VoiceGateway.Toml.Scalar

/-!
# Reading TOML documents

A document is read line by line. A header opens a table, a key with a value adds
an entry to the table opened last, and everything else is blank or a comment.
Values nest to a bounded depth, and so do dotted keys.

There is only one way to fail: the text is not TOML, be it for its form or
because a key or table is given twice.
-/

namespace VoiceGateway.Toml

/-- The bound that nested values and the parts of a key stay below. -/
def nestingLimit : Nat := 80

/-- Drops the blanks at the start. -/
def skipGap (cs : List Char) : List Char := cs.dropWhile isGap

/-- Drops blanks, line ends and comments; `inComment` says where it starts. -/
def skipLines : Bool → List Char → List Char
  | _, [] => []
  | _, '\r' :: '\n' :: cs => skipLines false cs
  | true, c :: cs =>
    if c = '\n' then skipLines false cs
    else if isPlain c then skipLines true cs
    else c :: cs
  | false, c :: cs =>
    if isGap c ∨ c = '\n' then skipLines false cs
    else if c = '#' then skipLines true cs
    else c :: cs

/-- Reads the rest of a line: blanks, perhaps a comment, and the line end. -/
def readLineEnd (cs : List Char) : Option (List Char) :=
  let afterGap := skipGap cs
  let rest :=
    match afterGap with
    | '#' :: comment => comment.dropWhile isPlain
    | _ => afterGap
  match rest with
  | [] => some []
  | '\n' :: more => some more
  | '\r' :: '\n' :: more => some more
  | _ => none

/-- Whether a character may stand in a key without quotes. -/
def isBareKey (c : Char) : Bool := c.isAlphanum || c == '_' || c == '-'

/-- Reads one part of a key. -/
def readKeyPart (cs : List Char) : Option (String × List Char) :=
  match cs with
  | c :: _ =>
    if c = '"' ∨ c = '\x27' then
      (readLineText cs).map fun (s, rest) => (String.ofList s, rest)
    else
      let bare := cs.takeWhile isBareKey
      if bare.isEmpty then none else some (String.ofList bare, cs.dropWhile isBareKey)
  | [] => none

/-- Reads the parts of a key, separated by dots; `fuel` bounds their number. -/
def readKeyParts : Nat → List Char → Option (List String × List Char)
  | 0, _ => none
  | fuel + 1, cs => do
    let (part, afterPart) ← readKeyPart (skipGap cs)
    match skipGap afterPart with
    | '.' :: more =>
      let (parts, rest) ← readKeyParts fuel more
      return (part :: parts, rest)
    | rest => return ([part], rest)

/-- Reads a key as the path to its last part, and that part. -/
def readKey (cs : List Char) : Option ((List String × String) × List Char) := do
  let (parts, rest) ← readKeyParts (nestingLimit - 1) cs
  let last ← parts.getLast?
  return ((parts.dropLast, last), rest)

/-- Reads the items of an array up to the closing bracket. -/
def readItems (readValue : List Char → Option (Value × List Char)) :
    Nat → List Value → List Char → Option (List Value × List Char)
  | 0, _, _ => none
  | fuel + 1, acc, cs =>
    match skipLines false cs with
    | ']' :: rest => some (acc.reverse, rest)
    | cs =>
      match readValue cs with
      | none => none
      | some (v, afterValue) =>
        match skipLines false afterValue with
        | ',' :: rest => readItems readValue fuel (v :: acc) rest
        | ']' :: rest => some ((v :: acc).reverse, rest)
        | _ => none

/-- Reads a key, an equals sign and a value. -/
def readPair (readValue : List Char → Option (Value × List Char)) (cs : List Char) :
    Option ((List String × String) × Value × List Char) := do
  let (key, afterKey) ← readKey cs
  let afterSign ← readChar '=' afterKey
  let (v, rest) ← readValue (skipGap afterSign)
  return (key, v, rest)

/-- Reads the entries of an inline table up to the closing brace. -/
def readEntries (readValue : List Char → Option (Value × List Char)) :
    Nat → Table → List Char → Option (Table × List Char)
  | 0, _, _ => none
  | fuel + 1, t, cs =>
    match readPair readValue cs with
    | none => none
    | some ((path, key), v, afterValue) =>
      match Table.insertDotted path key v t with
      | none => none
      | some t' =>
        match skipGap afterValue with
        | ',' :: rest => readEntries readValue fuel t' rest
        | '\x7d' :: rest => some (t', rest)
        | _ => none

/-- Reads a value that may nest to the given depth. -/
def readValue : Nat → List Char → Option (Value × List Char)
  | depth, cs =>
    match cs with
    | '"' :: _ | '\x27' :: _ => (readText cs).map fun (s, rest) => (.text (String.ofList s), rest)
    | '[' :: rest =>
      match depth with
      | 0 => none
      | depth + 1 =>
        (readItems (readValue depth) (rest.length + 1) [] rest).map fun (vs, rest) =>
          (.array vs, rest)
    | '\x7b' :: rest =>
      match depth with
      | 0 => none
      | depth + 1 =>
        match skipGap rest with
        | '\x7d' :: rest => some (.table .inline [], rest)
        | cs =>
          (readEntries (readValue depth) (cs.length + 1) [] cs).map fun (t, rest) =>
            (.table .inline t, rest)
    | 't' :: 'r' :: 'u' :: 'e' :: rest => some (.bool true, rest)
    | 'f' :: 'a' :: 'l' :: 's' :: 'e' :: rest => some (.bool false, rest)
    | cs =>
      -- A date begins like an integer, so it is tried first.
      match readMoment cs with
      | some r => some r
      | none => readNumber cs

/-- The document read so far: its entries, and the path of the table opened last. -/
structure Document where
  root : Table := []
  header : List String := []

/-- Reads a header after its opening bracket. -/
def readHeader (d : Document) (cs : List Char) : Option (Document × List Char) := do
  let ((path, key), afterKey) ← readKey cs
  let afterBracket ← readChar ']' afterKey
  let rest ← readLineEnd afterBracket
  let root ← d.root.openTable path key
  return (⟨root, path ++ [key]⟩, rest)

/-- Reads a header after its two opening brackets. -/
def readRowHeader (d : Document) (cs : List Char) : Option (Document × List Char) := do
  let ((path, key), afterKey) ← readKey cs
  let afterBracket ← readChar ']' afterKey
  let afterBrackets ← readChar ']' afterBracket
  let rest ← readLineEnd afterBrackets
  let root ← d.root.openRow path key
  return (⟨root, path ++ [key]⟩, rest)

/-- Reads a line with a key and a value. -/
def readEntry (d : Document) (cs : List Char) : Option (Document × List Char) := do
  let ((path, key), v, afterValue) ← readPair (readValue (nestingLimit - 1)) cs
  let rest ← readLineEnd afterValue
  let root ← d.root.insertUnder d.header path key v
  return (⟨root, d.header⟩, rest)

/-- Reads one line that is not blank. -/
def readLine (d : Document) : List Char → Option (Document × List Char)
  | '#' :: cs => (readLineEnd ('#' :: cs)).map fun rest => (d, rest)
  | '[' :: '[' :: cs => readRowHeader d cs
  | '[' :: cs => readHeader d cs
  | '\n' :: cs => some (d, cs)
  | '\r' :: '\n' :: cs => some (d, cs)
  | cs => readEntry d cs

/-- Reads lines up to the end of the text; `fuel` bounds their number. -/
def readLines : Nat → Document → List Char → Option Document
  | 0, _, _ => none
  | fuel + 1, d, cs =>
    match skipGap cs with
    | [] => some d
    | cs =>
      match readLine d cs with
      | none => none
      | some (d', rest) => readLines fuel d' rest

/-- Drops a byte order mark. -/
def skipMark : List Char → List Char
  | '\ufeff' :: cs => cs
  | cs => cs

/-- Reads a document. -/
def read (s : String) : Option Table :=
  let cs := skipMark s.toList
  (readLines (cs.length + 1) {} cs).map (·.root)

end VoiceGateway.Toml
