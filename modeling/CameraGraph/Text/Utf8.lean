/-!
# CameraGraph.Text.Utf8

Bytes and characters.

Documents and profile files arrive as bytes and must be well-formed UTF-8; web addresses spell
characters outside their alphabet as the bytes of the same encoding. Decoding is strict: no overlong
forms, no surrogates, nothing above U+10FFFF.
-/

namespace CameraGraph.Text

/-- The bytes of one character. -/
def utf8Bytes (c : Char) : List Nat :=
  let n := c.toNat
  if n < 0x80 then [n]
  else if n < 0x800 then [0xC0 + n / 0x40, 0x80 + n % 0x40]
  else if n < 0x10000 then [0xE0 + n / 0x1000, 0x80 + n / 0x40 % 0x40, 0x80 + n % 0x40]
  else [0xF0 + n / 0x40000, 0x80 + n / 0x1000 % 0x40, 0x80 + n / 0x40 % 0x40, 0x80 + n % 0x40]

/-- Every character has a first byte. -/
theorem utf8Bytes_eq_cons (c : Char) : ∃ b rest, utf8Bytes c = b :: rest := by
  unfold utf8Bytes
  dsimp only
  split
  · exact ⟨_, _, rfl⟩
  · split
    · exact ⟨_, _, rfl⟩
    · split <;> exact ⟨_, _, rfl⟩

/-- The number of bytes of a text. -/
def utf8Length (cs : List Char) : Nat := (cs.flatMap utf8Bytes).length

/-- A byte that continues a character. -/
def isTail (b : Nat) : Bool := 0x80 ≤ b && b < 0xC0

/-- The characters that well-formed bytes encode, or `none`. -/
def decodeUtf8 : List Nat → Option (List Char)
  | [] => some []
  | a :: r =>
    if a < 0x80 then (decodeUtf8 r).map (Char.ofNat a :: ·)
    else match r with
      | b :: r =>
        if 0xC2 ≤ a && a < 0xE0 then
          if isTail b then (decodeUtf8 r).map (Char.ofNat ((a - 0xC0) * 0x40 + (b - 0x80)) :: ·)
          else none
        else match r with
          | c :: r =>
            if 0xE0 ≤ a && a < 0xF0 then
              let n := (a - 0xE0) * 0x1000 + (b - 0x80) * 0x40 + (c - 0x80)
              if isTail b && isTail c && 0x800 ≤ n && !(0xD800 ≤ n && n < 0xE000) then
                (decodeUtf8 r).map (Char.ofNat n :: ·)
              else none
            else match r with
              | d :: r =>
                let n := (a - 0xF0) * 0x40000 + (b - 0x80) * 0x1000 + (c - 0x80) * 0x40 + (d - 0x80)
                if 0xF0 ≤ a && isTail b && isTail c && isTail d && 0x10000 ≤ n && n < 0x110000 then
                  (decodeUtf8 r).map (Char.ofNat n :: ·)
                else none
              | [] => none
          | [] => none
      | [] => none

/-- The text that well-formed bytes encode, or `none`. -/
def textOfBytes (bytes : List Nat) : Option String := (decodeUtf8 bytes).map String.ofList

end CameraGraph.Text
