import VoiceGateway.Snowflake
import VoiceGateway.Number.Shortest
import VoiceGateway.Text.Quoted

/-!
# Values that do not fit

A well-formed document may still hold a value that the place it stands in
cannot take. The causes are the same for every document format, and so is their
wording; only the text of a double depends on the format.
-/

namespace VoiceGateway

/-- What was found in place of the value that was asked for. -/
inductive Found where
  | bool (b : Bool)
  | integer (i : Int)
  | float (x : Float)
  | text (s : String)
  | null
  | sequence
  | map

/-- Why a value does not fit. -/
inductive Mismatch where
  | wrongType (found : Found) (expected : String)
  | outOfRange (found : Int) (expected : String)
  | wrongLength (found : Nat) (expected : String)
  | missingField (name : String)
  | duplicateField (name : String)
  | unknownVariant (name first second : String)
  | negativeId
  | unreadableId (cause : Snowflake.ReadError)

/-- An integer in decimal. -/
def integerText (i : Int) : String :=
  if i < 0 then "-" ++ Decimal.text i.natAbs else Decimal.text i.natAbs

/-- How a diagnostic names what was found. -/
def Found.describe (style : FloatStyle) : Found → String
  | .bool b => "boolean " ++ Text.codeSpan (if b then "true" else "false")
  | .integer i => "integer " ++ Text.codeSpan (integerText i)
  | .float x => "floating point " ++ Text.codeSpan (style.text x)
  | .text s => "string " ++ Text.cite s
  | .null => "null"
  | .sequence => "sequence"
  | .map => "map"

/-- The wording of each cause. -/
def Mismatch.message (style : FloatStyle) : Mismatch → String
  | .wrongType found expected =>
    "invalid type: " ++ found.describe style ++ ", expected " ++ expected
  | .outOfRange found expected =>
    "invalid value: " ++ (Found.integer found).describe style ++ ", expected " ++ expected
  | .wrongLength found expected =>
    "invalid length " ++ Decimal.text found ++ ", expected " ++ expected
  | .missingField name => "missing field " ++ Text.codeSpan name
  | .duplicateField name => "duplicate field " ++ Text.codeSpan name
  | .unknownVariant name first second =>
    "unknown variant " ++ Text.codeSpan name ++ ", expected " ++ Text.codeSpan first ++
      " or " ++ Text.codeSpan second
  | .negativeId => "snowflake must not be negative"
  | .unreadableId cause => cause.message

end VoiceGateway
