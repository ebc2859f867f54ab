import CameraGraph.Json.Error
import CameraGraph.Text.Utf8

/-!
# CameraGraph.Json.Reader

Reading JSON text from left to right.

Every reader takes the text that is left and gives what it read with the text after it, or the first
error. Text is read with one of two kinds of care. A value that is kept is read in full: numbers have
to be in range, surrogate escapes have to pair, and containers nest 127 deep at most. A value that is
only passed over is skimmed: its brackets, separators and escapes have to be right, and nothing more.
The two differ also in what they call a misplaced comma.

Loops carry a bound on their steps, the length of the text: every item takes a character at least,
so the bound is never what ends a loop.
-/

namespace CameraGraph.Json

/-- How closely a value is read. -/
inductive Care where
  /-- The value is kept. -/
  | kept
  /-- The value is passed over. -/
  | skimmed
  deriving Repr, DecidableEq

/-- The blanks of JSON: space, tab, line feed and carriage return. -/
def isSpace (c : Char) : Bool := c == ' ' || c == '\t' || c == '\n' || c == '\r'

/-- The text after any blanks. -/
def skipSpace (s : List Char) : List Char := s.dropWhile isSpace

/-- The rest of a word such as `null`, after its first letter. -/
def word : List Char → List Char → Except Error (List Char)
  | [], s => .ok s
  | _ :: _, [] => .error (.ended .value)
  | e :: es, c :: r => if c = e then word es r else .error (.malformed .ident)

/-! ### Strings -/

/-- The value of a hexadecimal digit. -/
def hexValue? (c : Char) : Option Nat :=
  if '0' ≤ c && c ≤ '9' then some (c.toNat - 0x30)
  else if 'a' ≤ c && c ≤ 'f' then some (c.toNat - 0x61 + 10)
  else if 'A' ≤ c && c ≤ 'F' then some (c.toNat - 0x41 + 10)
  else none

/-- The four digits of an escape. A text with less than four bytes left ends too early; otherwise
whatever is no digit makes the escape wrong. -/
def fourHex : List Char → Except Error (Nat × List Char)
  | a :: b :: c :: d :: r =>
    match hexValue? a, hexValue? b, hexValue? c, hexValue? d with
    | some a, some b, some c, some d => .ok (((a * 16 + b) * 16 + c) * 16 + d, r)
    | _, _, _, _ => .error (.malformed .escape)
  | short =>
    if 4 ≤ Text.utf8Length short then .error (.malformed .escape) else .error (.ended .string)

/-- The character of an escape that starts with a leading surrogate: the trailing one has to follow
in an escape of its own. -/
def surrogatePair (lead : Nat) : List Char → Except Error (Char × List Char)
  | [] => .error (.ended .string)
  | '\\' :: [] => .error (.ended .string)
  | '\\' :: 'u' :: r => do
    let (trail, r) ← fourHex r
    if 0xDC00 ≤ trail && trail < 0xE000 then
      return (Char.ofNat (0x10000 + (lead - 0xD800) * 0x400 + (trail - 0xDC00)), r)
    else throw (.malformed .loneSurrogate)
  | _ => .error (.malformed .hexEscapeEnd)

/-- The character of an escape given by code point. -/
def unicodeEscape (s : List Char) : Except Error (Char × List Char) := do
  let (n, r) ← fourHex s
  if 0xDC00 ≤ n && n < 0xE000 then throw (.malformed .loneSurrogate)
  else if 0xD800 ≤ n && n < 0xDC00 then surrogatePair n r
  else return (Char.ofNat n, r)

/-- The character that an escape stands for, after its backslash. -/
def escape : List Char → Except Error (Char × List Char)
  | [] => .error (.ended .string)
  | '"' :: r => .ok ('"', r)
  | '\\' :: r => .ok ('\\', r)
  | '/' :: r => .ok ('/', r)
  | 'b' :: r => .ok ('\x08', r)
  | 'f' :: r => .ok ('\x0c', r)
  | 'n' :: r => .ok ('\n', r)
  | 'r' :: r => .ok ('\r', r)
  | 't' :: r => .ok ('\t', r)
  | 'u' :: r => unicodeEscape r
  | _ => .error (.malformed .escape)

/-- Passes over an escape, after its backslash: four digits are checked, what they mean is not. -/
def skimEscape : List Char → Except Error (List Char)
  | 'u' :: r => do return (← fourHex r).2
  | s => do return (← escape s).2

/-- The characters of a string up to its closing quote, for a text of at most `bound` characters. -/
def stringTail : (bound : Nat) → List Char → Except Error (List Char × List Char)
  | 0, _ => .error (.ended .string)
  | _ + 1, [] => .error (.ended .string)
  | bound + 1, c :: r =>
    if c = '"' then .ok ([], r)
    else if c = '\\' then do
      let (e, r) ← escape r
      let (cs, r) ← stringTail bound r
      return (e :: cs, r)
    else if c.toNat < 0x20 then .error (.malformed .control)
    else do
      let (cs, r) ← stringTail bound r
      return (c :: cs, r)

/-- A string, after its opening quote. -/
def string (s : List Char) : Except Error (String × List Char) := do
  let (cs, r) ← stringTail s.length s
  return (String.ofList cs, r)

/-- Passes over the characters of a string up to its closing quote. -/
def skimStringTail : (bound : Nat) → List Char → Except Error (List Char)
  | 0, _ => .error (.ended .string)
  | _ + 1, [] => .error (.ended .string)
  | bound + 1, c :: r =>
    if c = '"' then .ok r
    else if c = '\\' then do skimStringTail bound (← skimEscape r)
    else if c.toNat < 0x20 then .error (.malformed .control)
    else skimStringTail bound r

/-- Passes over a string, after its opening quote. -/
def skimString (s : List Char) : Except Error (List Char) := skimStringTail s.length s

/-! ### Numbers -/

/-- A run of digits with the text after it. -/
def digitRun (s : List Char) : List Char × List Char := s.span Char.isDigit

/-- Digits taken into a significand as long as it fits into 64 bits, with the digits left over. -/
def takeDigits (significand : Nat) : List Char → Nat × List Char
  | [] => (significand, [])
  | d :: ds =>
    let next := significand * 10 + (d.toNat - '0'.toNat)
    if next < 0x10000000000000000 then takeDigits next ds else (significand, d :: ds)

/-- The finite number of the given parts. -/
def realOf (negative : Bool) (significand : Nat) (exponent : Int) : Except Error Number :=
  match Binary64.approximate negative significand exponent with
  | some x => .ok (.real x)
  | none => .error (.malformed .numberRange)

/-- The number with an exponent, after its `e`. An exponent beyond 32 bits leaves nothing but zero:
a positive one is out of range unless the significand is zero. -/
def exponentPart (negative : Bool) (significand : Nat) (start : Int) (s : List Char) :
    Except Error (Number × List Char) := do
  let (minus, s) := match s with
    | '+' :: r => (false, r)
    | '-' :: r => (true, r)
    | s => (false, s)
  if s = [] then throw (.ended .value)
  let (ds, r) := digitRun s
  if ds = [] then throw (.malformed .number)
  let e := digitsValue ds
  if 0x80000000 ≤ e then
    if significand ≠ 0 && !minus then throw (.malformed .numberRange)
    else return (.real (.zero negative), r)
  else return (← realOf negative significand (if minus then start - e else start + e), r)

/-- The number with a point, after the point. Digits that no longer fit are dropped. -/
def pointPart (negative : Bool) (significand : Nat) (start : Int) (s : List Char) :
    Except Error (Number × List Char) := do
  let (ds, r) := digitRun s
  if ds = [] then throw (if r = [] then .ended .value else .malformed .number)
  let (significand, dropped) := takeDigits significand ds
  let exponent := start - (ds.length - dropped.length : Nat)
  match r with
  | 'e' :: r => exponentPart negative significand exponent r
  | 'E' :: r => exponentPart negative significand exponent r
  | r => return (← realOf negative significand exponent, r)

/-- The number of an integer part and what follows it. Without a point or an exponent it is the
integer as written if that fits into 64 bits, and zero with a minus sign is no integer. -/
def numberAfter (negative : Bool) (ds : List Char) (s : List Char) :
    Except Error (Number × List Char) :=
  let (significand, dropped) := takeDigits 0 ds
  let exponent : Int := dropped.length
  match s with
  | '.' :: r => pointPart negative significand exponent r
  | 'e' :: r => exponentPart negative significand exponent r
  | 'E' :: r => exponentPart negative significand exponent r
  | r => do
    if dropped ≠ [] then return (← realOf negative significand exponent, r)
    else if !negative then return (.integer significand, r)
    else if 0 < significand && significand ≤ 0x8000000000000000 then
      return (.integer (-(significand : Int)), r)
    else return (← realOf true significand 0, r)

/-- A number, after its minus sign if it has one. -/
def number (negative : Bool) (s : List Char) : Except Error (Number × List Char) :=
  match s with
  | [] => .error (.ended .value)
  | c :: r =>
    if c = '0' then
      match r with
      | d :: _ => if d.isDigit then .error (.malformed .number) else numberAfter negative ['0'] r
      | [] => numberAfter negative ['0'] r
    else if c.isDigit then
      let (ds, r) := digitRun s
      numberAfter negative ds r
    else .error (.malformed .number)

/-- Passes over digits, of which there has to be one. -/
def skimDigits (s : List Char) : Except Error (List Char) :=
  match digitRun s with
  | ([], _) => .error (.malformed .number)
  | (_, r) => .ok r

/-- Passes over an exponent, after its `e`. -/
def skimExponent : List Char → Except Error (List Char)
  | '+' :: r => skimDigits r
  | '-' :: r => skimDigits r
  | s => skimDigits s

/-- Passes over what may follow an integer part. -/
def skimFraction : List Char → Except Error (List Char)
  | '.' :: r => do
    match ← skimDigits r with
    | 'e' :: r => skimExponent r
    | 'E' :: r => skimExponent r
    | r => return r
  | 'e' :: r => skimExponent r
  | 'E' :: r => skimExponent r
  | s => .ok s

/-- Passes over a number, after its minus sign if it has one. -/
def skimNumber : List Char → Except Error (List Char)
  | '0' :: d :: r => if d.isDigit then .error (.malformed .number) else skimFraction (d :: r)
  | s => do skimFraction (← skimDigits s)

/-! ### Lists and objects -/

/-- Where a list or object goes on. -/
inductive Turn where
  /-- It ends, and this text follows. -/
  | close (rest : List Char)
  /-- Another entry follows. -/
  | entry (rest : List Char)

/-- The next turn of a list. -/
def nextItem (care : Care) (first : Bool) (s : List Char) : Except Error Turn :=
  match skipSpace s with
  | [] => .error (.ended .list)
  | c :: r =>
    if c = ']' then .ok (.close r)
    else if first then .ok (.entry (c :: r))
    else if c = ',' then
      match care, skipSpace r with
      | .kept, [] => .error (.ended .value)
      | .kept, d :: r => if d = ']' then .error (.malformed .trailingComma) else .ok (.entry (d :: r))
      | .skimmed, r => .ok (.entry r)
    else .error (.malformed .listSeparator)

/-- The next turn of an object; an entry is the text after the opening quote of its key. -/
def nextKey (care : Care) (first : Bool) (s : List Char) : Except Error Turn :=
  match skipSpace s with
  | [] => .error (.ended .object)
  | c :: r =>
    if c = '\x7d' then .ok (.close r)
    else if first then
      if c = '"' then .ok (.entry r) else .error (.malformed .key)
    else if c = ',' then
      match skipSpace r with
      | [] => .error (.ended (if care = .kept then .value else .object))
      | d :: r =>
        if d = '"' then .ok (.entry r)
        else if d = '\x7d' && care = .kept then .error (.malformed .trailingComma)
        else .error (.malformed .key)
    else .error (.malformed .objectSeparator)

/-- The text after the colon of a member. -/
def colon (s : List Char) : Except Error (List Char) :=
  match skipSpace s with
  | [] => .error (.ended .object)
  | c :: r => if c = ':' then .ok r else .error (.malformed .colon)

/-- The end of a list all of whose wanted items have been read. -/
def endList (s : List Char) : Except Error (List Char) :=
  match skipSpace s with
  | [] => .error (.ended .list)
  | c :: r =>
    if c = ']' then .ok r
    else if c = ',' then
      match skipSpace r with
      | ']' :: _ => .error (.malformed .trailingComma)
      | _ => .error (.malformed .trailingText)
    else .error (.malformed .trailingText)

/-- The items of a list up to its closing bracket. -/
def items (item : List Char → Except Error (α × List Char)) : (bound : Nat) → (first : Bool) →
    List Char → Except Error (List α × List Char)
  | 0, _, _ => .error (.ended .list)
  | bound + 1, first, s => do
    match ← nextItem .kept first s with
    | .close r => return ([], r)
    | .entry r =>
      let (v, r) ← item r
      let (vs, r) ← items item bound false r
      return (v :: vs, r)

/-- The members of an object up to its closing brace. -/
def members (value : List Char → Except Error (α × List Char)) : (bound : Nat) → (first : Bool) →
    List Char → Except Error (List (String × α) × List Char)
  | 0, _, _ => .error (.ended .object)
  | bound + 1, first, s => do
    match ← nextKey .kept first s with
    | .close r => return ([], r)
    | .entry r =>
      let (k, r) ← string r
      let (v, r) ← value (← colon r)
      let (ms, r) ← members value bound false r
      return ((k, v) :: ms, r)

/-- Passes over the items of a list up to its closing bracket. -/
def skimItems (item : List Char → Except Error (List Char)) : (bound : Nat) → (first : Bool) →
    List Char → Except Error (List Char)
  | 0, _, _ => .error (.ended .list)
  | bound + 1, first, s => do
    match ← nextItem .skimmed first s with
    | .close r => return r
    | .entry r => skimItems item bound false (← item r)

/-- Passes over the members of an object up to its closing brace. -/
def skimMembers (value : List Char → Except Error (List Char)) : (bound : Nat) → (first : Bool) →
    List Char → Except Error (List Char)
  | 0, _, _ => .error (.ended .object)
  | bound + 1, first, s => do
    match ← nextKey .skimmed first s with
    | .close r => return r
    | .entry r => skimMembers value bound false (← value (← colon (← skimString r)))

/-! ### Values -/

/-- A value, with room for `depth` containers inside one another. -/
def value (depth : Nat) (s : List Char) : Except Error (Value × List Char) :=
  match skipSpace s with
  | [] => .error (.ended .value)
  | c :: r =>
    if c = 'n' then do return (.null, ← word ['u', 'l', 'l'] r)
    else if c = 't' then do return (.bool true, ← word ['r', 'u', 'e'] r)
    else if c = 'f' then do return (.bool false, ← word ['a', 'l', 's', 'e'] r)
    else if c = '-' then do
      let (n, r) ← number true r
      return (.number n, r)
    else if c.isDigit then do
      let (n, r) ← number false (c :: r)
      return (.number n, r)
    else if c = '"' then do
      let (t, r) ← string r
      return (.string t, r)
    else if c = '[' then
      match depth with
      | 0 => .error (.malformed .depth)
      | d + 1 => do
        let (vs, r) ← items (value d) (r.length + 1) true r
        return (.list vs, r)
    else if c = '\x7b' then
      match depth with
      | 0 => .error (.malformed .depth)
      | d + 1 => do
        let (ms, r) ← members (value d) (r.length + 1) true r
        return (.object ms, r)
    else .error (.malformed .value)

/-- Passes over a value in a text of at most `bound` characters. -/
def skimValue (bound : Nat) (s : List Char) : Except Error (List Char) :=
  match skipSpace s with
  | [] => .error (.ended .value)
  | c :: r =>
    if c = 'n' then word ['u', 'l', 'l'] r
    else if c = 't' then word ['r', 'u', 'e'] r
    else if c = 'f' then word ['a', 'l', 's', 'e'] r
    else if c = '-' then skimNumber r
    else if c.isDigit then skimNumber (c :: r)
    else if c = '"' then skimString r
    else if c = '[' then
      match bound with
      | 0 => .error (.ended .list)
      | b + 1 => skimItems (skimValue b) (r.length + 1) true r
    else if c = '\x7b' then
      match bound with
      | 0 => .error (.ended .object)
      | b + 1 => skimMembers (skimValue b) (r.length + 1) true r
    else .error (.malformed .value)

/-- Passes over a value. -/
def skim (s : List Char) : Except Error (List Char) := skimValue s.length s

/-- The most containers that may stand inside one another. -/
def maxDepth : Nat := 127

/-- A whole text read by `read`: nothing but blanks may follow. -/
def whole (read : List Char → Except Error (α × List Char)) (text : String) :
    Except Error α := do
  let (a, r) ← read text.toList
  if skipSpace r = [] then return a else throw (.malformed .trailingText)

end CameraGraph.Json
