import GuestNet.Text.Graphic

/-! Text in quotation marks for a reader's eye: what cannot be seen is written as an escape. -/
namespace GuestNet.Text

/-- The code point in lower-case hexadecimal digits. -/
def hexEscape (c : Char) : String := "\\u\x7b" ++ String.ofList (Nat.toDigits 16 c.toNat) ++ "\x7d"

def quotedChar (c : Char) : String :=
  match c with
  | '\x00' => "\\0"
  | '\t' => "\\t"
  | '\r' => "\\r"
  | '\n' => "\\n"
  | '"' => "\\\""
  | '\\' => "\\\\"
  | c => if c.toNat < 0x7F && 0x20 ≤ c.toNat || isGraphic c then c.toString else hexEscape c

def quoted (s : String) : String := "\"" ++ String.join (s.toList.map quotedChar) ++ "\""

end GuestNet.Text
