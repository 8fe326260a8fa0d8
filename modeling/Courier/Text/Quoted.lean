import Courier.Text.Ranges
import Courier.Text.ShapelessTable

/-! Text in quotation marks, as diagnostics show it.

    Quotes and backslashes are escaped, the common controls have letters, and a character without a
    shape of its own is given by its code point in braces. -/

namespace Courier.Text

/-- Hexadecimal digits of a number, in small letters. -/
def hexChars (n : Nat) : List Char := Nat.toDigits 16 n

/-- Whether the character shows no shape of its own. -/
def isShapeless (c : Char) : Bool := inRanges shapelessRanges c.toNat

/-- One character between quotation marks. -/
def quotedChar (c : Char) : List Char :=
  if c == '"' then ['\\', '"']
  else if c == '\\' then ['\\', '\\']
  else if c == '\n' then ['\\', 'n']
  else if c == '\r' then ['\\', 'r']
  else if c == '\t' then ['\\', 't']
  else if c.toNat == 0 then ['\\', '0']
  else if 32 ≤ c.toNat && c.toNat < 127 then [c]
  else if isShapeless c then ['\\', 'u', '\x7b'] ++ hexChars c.toNat ++ ['\x7d']
  else [c]

/-- The string in quotation marks. -/
def quoted (s : String) : String :=
  String.ofList ('"' :: s.toList.flatMap quotedChar ++ ['"'])

end Courier.Text
