import CameraGraph.KeyedList
import CameraGraph.Number.Shortest

/-!
# CameraGraph.Json.Value

JSON values, and their compact text.

A value keeps what its text says: an integer stays apart from the same number written with a point,
and an object keeps its members in document order, repeats included. The compact text is a canonical
form: members sorted by key with the last of equal keys, no blanks, and only the quote, the backslash
and control characters escaped.
-/

namespace CameraGraph.Json

/-- A JSON number: a whole number as written, or a finite binary number. -/
inductive Number where
  /-- Written as an integer that fits into 64 bits. -/
  | integer (z : Int)
  /-- Written with a point or an exponent, or too large for an integer. -/
  | real (x : Binary64)
  deriving Repr, DecidableEq

namespace Number

/-- The text of a number. -/
def text : Number → String
  | integer z => intText z
  | real x => x.text

/-- Equality of numbers as documents mean it: an integer never equals a number with a point. -/
def same : Number → Number → Bool
  | integer a, integer b => a == b
  | real a, real b => a.same b
  | _, _ => false

end Number

/-- A JSON value. -/
inductive Value where
  /-- `null`. -/
  | null
  /-- `true` or `false`. -/
  | bool (b : Bool)
  /-- A number. -/
  | number (n : Number)
  /-- A string. -/
  | string (s : String)
  /-- The items of a list. -/
  | list (items : List Value)
  /-- The members of an object, as written. -/
  | object (members : List (String × Value))
  deriving Repr, Inhabited

/-- A lower-case hexadecimal digit. -/
def hexDigit (n : Nat) : Char := Nat.digitChar (n % 16)

/-- How a character stands inside a written string. -/
def escapeChar (c : Char) : List Char :=
  if c = '"' then ['\\', '"']
  else if c = '\\' then ['\\', '\\']
  else if c = '\x08' then ['\\', 'b']
  else if c = '\t' then ['\\', 't']
  else if c = '\n' then ['\\', 'n']
  else if c = '\x0c' then ['\\', 'f']
  else if c = '\r' then ['\\', 'r']
  else if c.toNat < 0x20 then ['\\', 'u', '0', '0', hexDigit (c.toNat / 16), hexDigit c.toNat]
  else [c]

/-- A written string. -/
def stringChars (s : String) : List Char := '"' :: s.toList.flatMap escapeChar ++ ['"']

mutual

/-- The compact text of a value. -/
def Value.chars : Value → List Char
  | .null => ['n', 'u', 'l', 'l']
  | .bool true => ['t', 'r', 'u', 'e']
  | .bool false => ['f', 'a', 'l', 's', 'e']
  | .number n => n.text.toList
  | .string s => stringChars s
  | .list items => '[' :: [','].intercalate (itemTexts items) ++ [']']
  | .object members =>
    let entries := (KeyedList.sorted (memberTexts members)).map fun m =>
      stringChars m.1 ++ ':' :: m.2
    '\x7b' :: [','].intercalate entries ++ ['\x7d']

/-- The texts of the items of a list. -/
def itemTexts : List Value → List (List Char)
  | [] => []
  | v :: r => v.chars :: itemTexts r

/-- The keys of an object with the texts of their values. -/
def memberTexts : List (String × Value) → List (String × List Char)
  | [] => []
  | (k, v) :: r => (k, v.chars) :: memberTexts r

end

/-- The compact text of a value. -/
def Value.compact (v : Value) : String := String.ofList v.chars

end CameraGraph.Json
