import CameraGraph.Text.Utf8

/-!
# CameraGraph.Url.Percent

Percent encoding: bytes spelled as `%` and two hexadecimal digits.

Each part of an address has a set of characters that may not stand in it as they are. Controls and
everything beyond ASCII are in every set. A percent sign is in none, so what is encoded already is
left alone.
-/

namespace CameraGraph.Url

/-- Controls, and characters beyond ASCII. -/
def isControl (c : Char) : Bool := c.toNat < 0x20 || 0x7E < c.toNat

/-- What a path may not hold as it is. -/
def inPathSet (c : Char) : Bool :=
  isControl c || [' ', '"', '#', '<', '>', '?', '`', '\x7b', '\x7d'].contains c

/-- What a query may not hold as it is; a special scheme excludes the apostrophe too. -/
def inQuerySet (special : Bool) (c : Char) : Bool :=
  isControl c || [' ', '"', '#', '<', '>'].contains c || (special && c == '\'')

/-- A byte as a percent sign and two upper-case digits. -/
def percentByte (b : Nat) : List Char :=
  let digit (n : Nat) : Char := Char.ofNat (if n < 10 then 0x30 + n else 0x41 + (n - 10))
  ['%', digit (b / 16), digit (b % 16)]

/-- A character, encoded if it is in the set. -/
def encodeChar (set : Char → Bool) (c : Char) : List Char :=
  if set c then (Text.utf8Bytes c).flatMap percentByte else [c]

/-- Characters with those of the set encoded. -/
def encode (set : Char → Bool) (cs : List Char) : List Char := cs.flatMap (encodeChar set)

/-- The value of a hexadecimal digit. -/
def hexValue? (c : Char) : Option Nat :=
  if '0' ≤ c && c ≤ '9' then some (c.toNat - 0x30)
  else if 'a' ≤ c && c ≤ 'f' then some (c.toNat - 0x61 + 10)
  else if 'A' ≤ c && c ≤ 'F' then some (c.toNat - 0x41 + 10)
  else none

/-- The bytes of a text with the encoded ones decoded. A percent sign without two digits stands for
itself. -/
def decodeBytes : List Char → List Nat
  | [] => []
  | '%' :: a :: b :: r =>
    match hexValue? a, hexValue? b with
    | some x, some y => (16 * x + y) :: decodeBytes r
    | _, _ => 0x25 :: decodeBytes (a :: b :: r)
  | c :: r => Text.utf8Bytes c ++ decodeBytes r

end CameraGraph.Url
