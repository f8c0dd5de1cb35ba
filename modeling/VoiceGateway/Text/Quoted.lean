import VoiceGateway.Text.Decimal
import VoiceGateway.Text.Hexadecimal
import VoiceGateway.Text.Printable

/-!
# Texts quoted in diagnostics

A diagnostic that cites a text puts it between double quotes. Quotes,
backslashes and the usual control characters have a short escape; any other
character that would not be visible is given by its code point in hexadecimal.
-/

namespace VoiceGateway.Text

/-- How one character of a cited text is shown. -/
def citeChar (c : Char) : List Char :=
  match c with
  | '\x00' => ['\\', '0']
  | '\t' => ['\\', 't']
  | '\r' => ['\\', 'r']
  | '\n' => ['\\', 'n']
  | '"' => ['\\', '"']
  | '\\' => ['\\', '\\']
  | c =>
    if isPrintable c then [c]
    else ['\\', 'u', '\x7b'] ++ hexDigits c.toNat ++ ['\x7d']

/-- A text as a diagnostic cites it. -/
def cite (s : String) : String :=
  String.ofList ('"' :: s.toList.flatMap citeChar ++ ['"'])

/-- A word of a diagnostic set between grave accents. -/
def codeSpan (s : String) : String := "\x60" ++ s ++ "\x60"

end VoiceGateway.Text
