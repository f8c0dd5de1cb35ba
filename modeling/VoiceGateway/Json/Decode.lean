import VoiceGateway.Json.Draft
import VoiceGateway.Json.Numeral
import VoiceGateway.Mismatch

/-!
# Decoding JSON

A decoder goes through a draft in the order of the text and stops at the first
problem: a fault of the text or a value that does not fit. Scalars are judged
when they are complete, containers of the wrong kind where they begin.

A record is decoded from an object, whose members may come in any order with
unknown ones among them, or from an array of its fields in order. Members are
checked one by one as they come; what is missing is noticed only at the end.

Some values have to be kept before it is known how to decode them. Then the
whole draft is gone through first, with a bound on its nesting, and the decoder
works on the kept value afterwards.
-/

namespace VoiceGateway.Json

/-- Why a text cannot be decoded. -/
inductive Error where
  | fault (f : Fault)
  | mismatch (m : Mismatch)

/-- How doubles are printed in diagnostics about JSON: the fewest digits,
positional for powers of ten from -5 to 15. -/
def floatStyle : FloatStyle := ⟨.toEven, some (-5, 15), "NaN"⟩

/-- Decodes values of type `α`. -/
abbrev Decoder (α : Type) : Type := Draft → Except Error α

namespace Ending

/-- The fault that an object ends in, if any; `strings` picks the verdict on a
name that breaks off. -/
def fault? (strings : Fault → Fault → Fault) : Ending → Option Fault
  | .closed => none
  | .cut f => some f
  | .nameless none => some .truncated
  | .nameless (some (.brokenText k s)) => some (strings k s)
  | .nameless (some _) => some .malformed

end Ending

/-- Fails with the fault if there is one. -/
def raise : Option Fault → Except Fault Unit
  | none => .ok ()
  | some f => .error f

namespace Draft

mutual

/-- Skips over a value: only its form matters, at any depth. -/
def skip : Draft → Except Fault Unit
  | .null | .bool _ | .number _ | .text _ => .ok ()
  | .array items cut => do
    skipItems items
    raise cut
  | .object members ending => do
    skipMembers members
    raise (ending.fault? fun _ s => s)
  | .absent f => .error f
  | .brokenText _ s => .error s
  | .broken _ s => .error s

/-- Skips over the items of an array. -/
def skipItems : List Draft → Except Fault Unit
  | [] => .ok ()
  | v :: vs => do
    skip v
    skipItems vs

/-- Skips over the members of an object. -/
def skipMembers : List (Option String × Draft) → Except Fault Unit
  | [] => .ok ()
  | (_, v) :: ms => do
    skip v
    skipMembers ms

end

mutual

/-- Keeps a value for later: its numbers must be in range, its strings well
formed, and containers may nest to the given depth. -/
def keep : Nat → Draft → Except Fault Unit
  | _, .null => .ok ()
  | _, .bool _ => .ok ()
  | _, .number n => n.value.map fun _ => ()
  | _, .text (some _) => .ok ()
  | _, .text none => .error .malformed
  | 0, .array _ _ => .error .malformed
  | 0, .object _ _ => .error .malformed
  | depth + 1, .array items cut => do
    keepItems depth items
    raise cut
  | depth + 1, .object members ending => do
    keepMembers depth members
    raise (ending.fault? fun k _ => k)
  | _, .absent f => .error f
  | _, .brokenText k _ => .error k
  | _, .broken k _ => .error k

/-- Keeps the items of an array. -/
def keepItems (depth : Nat) : List Draft → Except Fault Unit
  | [] => .ok ()
  | v :: vs => do
    keep depth v
    keepItems depth vs

/-- Keeps the members of an object. -/
def keepMembers (depth : Nat) : List (Option String × Draft) → Except Fault Unit
  | [] => .ok ()
  | (none, _) :: _ => .error .malformed
  | (some _, v) :: ms => do
    keep depth v
    keepMembers depth ms

end

/-- What a number is called when it does not fit. -/
def foundNumber : Number → Found
  | .unsigned n => .integer n
  | .negative i => .integer i
  | .float x => .float x

/-- What a value is called when it does not fit. -/
def found : Draft → Except Fault Found
  | .null => .ok .null
  | .bool b => .ok (.bool b)
  | .number n => n.value.map foundNumber
  | .text (some s) => .ok (.text s)
  | .text none => .error .malformed
  | .array _ _ => .ok .sequence
  | .object _ _ => .ok .map
  | .absent f => .error f
  | .brokenText k _ => .error k
  | .broken k _ => .error k

/-- The error for a value where something else is expected. -/
def refuse (d : Draft) (expected : String) : Error :=
  match d.found with
  | .ok found => .mismatch (.wrongType found expected)
  | .error f => .fault f

end Draft

/-! ## Scalars -/

def decodeBool : Decoder Bool
  | .bool b => .ok b
  | d => .error (d.refuse "a boolean")

def decodeText : Decoder String
  | .text (some s) => .ok s
  | d => .error (d.refuse "a string")

def decodeUInt32 : Decoder UInt32
  | .number n =>
    match n.value with
    | .error f => .error (.fault f)
    | .ok (.unsigned v) =>
      if v < 0x100000000 then .ok v.toUInt32 else .error (.mismatch (.outOfRange v "u32"))
    | .ok (.negative i) => .error (.mismatch (.outOfRange i "u32"))
    | .ok (.float x) => .error (.mismatch (.wrongType (.float x) "u32"))
  | d => .error (d.refuse "u32")

/-- A value that may be null. -/
def decodeNullable {α : Type} (decode : Decoder α) : Decoder (Option α)
  | .null => .ok none
  | d => (decode d).map some

/-- What a snowflake is called where something else is found. -/
def snowflakeShape : String := "a snowflake as a decimal string or unsigned integer"

/-- An id, as a number without a sign or as a text. -/
def decodeSnowflake : Decoder Snowflake
  | .number n =>
    match n.value with
    | .error f => .error (.fault f)
    | .ok (.unsigned v) => .ok ⟨v.toUInt64⟩
    | .ok (.negative _) => .error (.mismatch .negativeId)
    | .ok (.float x) => .error (.mismatch (.wrongType (.float x) snowflakeShape))
  | .text (some s) =>
    match Snowflake.ofText s with
    | .ok id => .ok id
    | .error cause => .error (.mismatch (.unreadableId cause))
  | d => .error (d.refuse snowflakeShape)

/-! ## Records -/

/-- One field of a record: its name, which values it takes, and whether an array
may end before it. -/
structure Field where
  name : String
  check : Draft → Except Error Unit
  mayBeLeftOut : Bool := false

/-- A field whose values are those of a decoder. -/
def Field.of {α : Type} (name : String) (decode : Decoder α) : Field :=
  { name := name, check := fun d => (decode d).map fun _ => () }

/-- A field before which an array may end. -/
def Field.leavable (f : Field) : Field := { f with mayBeLeftOut := true }

/-- The fields that were given, with their values. -/
abbrev Given : Type := List (String × Draft)

/-- Where a record is decoded from: the text itself, or a value kept before. -/
inductive Origin where
  | text
  | kept
deriving DecidableEq, Repr

/-- Goes through the members of an object. -/
def readMembers (fields : List Field) (ending : Ending) :
    Given → List (Option String × Draft) → Except Error Given
  | given, [] =>
    match ending.fault? fun k _ => k with
    | none => .ok given
    | some f => .error (.fault f)
  | _, (none, _) :: _ => .error (.fault .malformed)
  | given, (some name, v) :: ms =>
    match fields.find? (·.name == name) with
    | none =>
      match v.skip with
      | .error f => .error (.fault f)
      | .ok () => readMembers fields ending given ms
    | some field =>
      -- A repeated name is noticed before its value is looked at.
      if given.any (·.1 == name) then .error (.mismatch (.duplicateField name))
      else
        match field.check v with
        | .error e => .error e
        | .ok () => readMembers fields ending (given ++ [(name, v)]) ms

/-- The phrase for a number of items. -/
def itemsInSequence (n : Nat) : String :=
  if n = 1 then "1 element in sequence" else Decimal.text n ++ " elements in sequence"

/-- Goes through the items of an array; `index` fields have been passed. -/
def readItems (origin : Origin) (expected : String) (cut : Option Fault) (index : Nat) :
    Given → List Field → List Draft → Except Error Given
  | given, [], [] =>
    match cut with
    | none => .ok given
    | some f => .error (.fault f)
  -- More items than fields.
  | _, [], v :: vs =>
    match origin with
    | .text => .error (.fault .malformed)
    | .kept =>
      .error (.mismatch (.wrongLength (index + (v :: vs).length) (itemsInSequence index)))
  | given, field :: fields, [] =>
    match cut with
    | some f => .error (.fault f)
    | none =>
      if field.mayBeLeftOut then readItems origin expected cut (index + 1) given fields []
      else .error (.mismatch (.wrongLength index expected))
  | given, field :: fields, v :: vs =>
    match field.check v with
    | .error e => .error e
    | .ok () =>
      readItems origin expected cut (index + 1) (given ++ [(field.name, v)]) fields vs

/-- Reads the fields of a record that is called `name` in diagnostics. -/
def readRecord (origin : Origin) (name : String) (fields : List Field) :
    Draft → Except Error Given
  | .object members ending => readMembers fields ending [] members
  | .array items cut =>
    readItems origin
      ("struct " ++ name ++ " with " ++ Decimal.text fields.length ++ " elements")
      cut 0 [] fields items
  | d => .error (d.refuse ("struct " ++ name))

/-- The value of a field that has to be given. -/
def Given.required {α : Type} (given : Given) (name : String) (decode : Decoder α) :
    Except Error α :=
  match given.lookup name with
  | none => .error (.mismatch (.missingField name))
  | some d => decode d

/-- The value of a field that may be null or absent. -/
def Given.nullable {α : Type} (given : Given) (name : String) (decode : Decoder α) :
    Except Error (Option α) :=
  match given.lookup name with
  | none => .ok none
  | some d => decodeNullable decode d

/-- Decodes a text: the value first, then nothing but blanks. -/
def decode {α : Type} (decoder : Decoder α) (s : String) : Except Error α :=
  match draft s.toList with
  | (d, trailing) =>
    match decoder d with
    | .error e => .error e
    | .ok a => if trailing then .error (.fault .malformed) else .ok a

end VoiceGateway.Json
