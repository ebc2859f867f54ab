import CameraGraph.Text.PropertyTable

/-!
# CameraGraph.Text.Quoted

Text between double quotes with everything invisible spelled out, as diagnostics show it.

The quote, the backslash and the common controls have short escapes. A character without a glyph of
its own, or one that would attach itself to the character before it, is written as its code point in
hexadecimal between braces.
-/

namespace CameraGraph.Text

/-- The lower-case hexadecimal digits of a number, without leading zeros. -/
def hexDigits (n : Nat) : List Char := Nat.toDigits 16 n

/-- How a character is written between the quotes. -/
def quoteChar (c : Char) : List Char :=
  let codePoint := ['\\', 'u', '\x7b'] ++ hexDigits c.toNat ++ ['\x7d']
  if c = '\x00' then ['\\', '0']
  else if c = '\t' then ['\\', 't']
  else if c = '\r' then ['\\', 'r']
  else if c = '\n' then ['\\', 'n']
  else if c = '\\' then ['\\', '\\']
  else if c = '"' then ['\\', '"']
  else if c.toNat < 0x80 then if 0x20 ≤ c.toNat && c.toNat < 0x7F then [c] else codePoint
  else if graphemeExtenders.contains c.toNat || unprintables.contains c.toNat then codePoint
  else [c]

/-- Quoted text. -/
def quoted (s : String) : String :=
  String.ofList ('"' :: s.toList.flatMap quoteChar ++ ['"'])

/-- A bracketed list of quoted texts. -/
def quotedList (xs : List String) : String :=
  "[" ++ ", ".intercalate (xs.map quoted) ++ "]"

end CameraGraph.Text
