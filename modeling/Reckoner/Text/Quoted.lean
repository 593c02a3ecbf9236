import Reckoner.Text.Unprintable
import Reckoner.Text.Combining

/-! Quoted text in error messages and log lines, with escapes for characters that are invisible
or ambiguous. -/
namespace Reckoner.Text

def hexDigits (n : Nat) : String := String.ofList (Nat.toDigits 16 n)

def numbered (c : Char) : String := "\\u\x7b" ++ hexDigits c.toNat ++ "\x7d"

/-- Named escapes first; `'` is not escaped in double quotes. Unprintable characters and
combining ones after the quote are escaped by code point. -/
def escaped (c : Char) : String :=
  match c with
  | '"' => "\\\""
  | '\\' => "\\\\"
  | '\t' => "\\t"
  | '\n' => "\\n"
  | '\r' => "\\r"
  | '\x00' => "\\0"
  | c =>
    if 0x20 ≤ c.toNat && c.toNat < 0x7F then c.toString
    else if isCombining c || isUnprintable c || isFiller c then numbered c
    else c.toString

def quoted (text : String) : String :=
  text.foldl (fun out c => out ++ escaped c) "\"" ++ "\""

end Reckoner.Text
