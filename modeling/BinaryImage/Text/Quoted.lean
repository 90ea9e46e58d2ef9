import BinaryImage.Text.Hexadecimal
import BinaryImage.Text.Printable

/-!
# Quoted text

Diagnostic output shows a text between double quotes. A quote, a backslash and the common
controls are written with a backslash; any other character that is not printable is written as
its scalar value in base sixteen.
-/

namespace BinaryImage.Text

/-- One character as it stands inside quotes. -/
def escaped (character : Char) : String :=
  match character with
  | '\x00' => "\\0"
  | '\t' => "\\t"
  | '\r' => "\\r"
  | '\n' => "\\n"
  | '"' => "\\\""
  | '\\' => "\\\\"
  | _ =>
    if isPrintable character then String.singleton character
    else "\\u\x7b" ++ String.ofList (hexadecimalDigits character.toNat) ++ "\x7d"

def quoted (text : String) : String :=
  "\"" ++ String.join (text.toList.map escaped) ++ "\""

end BinaryImage.Text
