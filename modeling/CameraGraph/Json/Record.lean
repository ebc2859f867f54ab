import CameraGraph.Json.Reader

/-!
# CameraGraph.Json.Record

Reading documents of a known shape.

A record is written as an object, or as the list of its fields in order. Each field is read into a
change to the record, so the order of members matters for errors only; a known member may stand there
once, an unknown one is passed over. Fields that are left out keep the value of the empty record
unless they are required.

A document is read in one pass: the first error in the order of the text is the one reported, whether
the text or the shape is at fault.
-/

namespace CameraGraph.Json

/-- A reader of something nested: how deep containers may still go, and the text. -/
abbrev Decoder (α : Type) := Nat → List Char → Except Error (α × List Char)

/-- The error of a value of the wrong kind. A list or object is refused at its first character, any
other value after it has been read. -/
def refuse (wanted : String) (s : List Char) : Error :=
  let wrong (f : Found) := Error.misshapen (.wrongKind f wanted)
  match skipSpace s with
  | '[' :: _ => wrong .list
  | '\x7b' :: _ => wrong .object
  | s =>
    match value 0 s with
    | .ok (v, _) => wrong v.found
    | .error e => e

/-- A string. -/
def text : Decoder String := fun _ s =>
  match skipSpace s with
  | '"' :: r => string r
  | s => .error (refuse "a string" s)

/-- `null`, or what `read` reads. -/
def optional (read : Decoder α) : Decoder (Option α) := fun depth s =>
  match skipSpace s with
  | 'n' :: r => do return (none, ← word ['u', 'l', 'l'] r)
  | s => do
    let (a, r) ← read depth s
    return (some a, r)

/-- A list of what `item` reads. -/
def listOf (item : Decoder α) : Decoder (List α) := fun depth s =>
  match skipSpace s, depth with
  | '[' :: _, 0 => .error (.malformed .depth)
  | '[' :: r, d + 1 => items (item d) (r.length + 1) true r
  | s, _ => .error (refuse "a sequence" s)

/-- An object whose members all hold what `read` reads, in document order. -/
def mapOf (read : Decoder α) : Decoder (List (String × α)) := fun depth s =>
  match skipSpace s, depth with
  | '\x7b' :: _, 0 => .error (.malformed .depth)
  | '\x7b' :: r, d + 1 => members (read d) (r.length + 1) true r
  | s, _ => .error (refuse "a map" s)

/-- A value of any kind. -/
def anyValue : Decoder Value := value

/-- What `read` makes of a value that has been read as `first` reads it. -/
def via (first : Decoder α) (read : α → Except Error β) : Decoder β := fun depth s => do
  let (a, r) ← first depth s
  return (← read a, r)

/-- A field of a record. -/
structure Field (ρ : Type) where
  /-- The key of its member. -/
  key : String
  /-- Whether it may be left out. -/
  required : Bool
  /-- Reads its value into a change to the record. -/
  read : Decoder (ρ → ρ)

/-- A field that may be left out, read by `read` and stored by `set`. -/
def Field.optional (key : String) (read : Decoder α) (set : α → ρ → ρ) : Field ρ :=
  ⟨key, false, fun depth s => do
    let (a, r) ← read depth s
    return (set a, r)⟩

/-- A field that has to be there, read by `read` and stored by `set`. -/
def Field.needed (key : String) (read : Decoder α) (set : α → ρ → ρ) : Field ρ :=
  { Field.optional key read set with required := true }

/-- The shape of a record. -/
structure Shape (ρ : Type) where
  /-- The name that errors call it by. -/
  name : String
  /-- The fields in their order. -/
  fields : List (Field ρ)
  /-- The record none of whose fields has been read. -/
  empty : ρ

namespace Shape

variable {ρ : Type}

/-- What errors say was wanted of a list of fields. -/
def wantedLength (shape : Shape ρ) : String :=
  let n := shape.fields.length
  shape.name ++ " with " ++ natText n ++ (if n = 1 then " element" else " elements")

/-- The record in a list of its fields, from the `index`-th on. A list may stop early unless a
required field is left, and has to stop after the last. -/
def fromList (shape : Shape ρ) (depth : Nat) :
    List (Field ρ) → (index : Nat) → ρ → List Char → Except Error (ρ × List Char)
  | [], _, record, s => do return (record, ← endList s)
  | f :: fs, index, record, s => do
    match ← nextItem .kept (index == 0) s with
    | .close r =>
      match (f :: fs).findIdx? (·.required) with
      | some k => throw (.misshapen (.wrongLength (index + k) shape.wantedLength))
      | none => return (record, r)
    | .entry r =>
      let (change, r) ← f.read depth r
      shape.fromList depth fs (index + 1) (change record) r

/-- The members of an object up to its closing brace, with the keys seen so far. -/
def fromMembers (shape : Shape ρ) (depth : Nat) :
    (bound : Nat) → (seen : List String) → ρ → List Char →
    Except Error (ρ × List String × List Char)
  | 0, _, _, _ => .error (.ended .object)
  | bound + 1, seen, record, s => do
    match ← nextKey .kept seen.isEmpty s with
    | .close r => return (record, seen, r)
    | .entry r =>
      let (key, r) ← string r
      match shape.fields.find? (·.key == key) with
      | some f =>
        if seen.contains key then throw (.misshapen (.repeated key))
        let (change, r) ← f.read depth (← colon r)
        shape.fromMembers depth bound (key :: seen) (change record) r
      | none => shape.fromMembers depth bound (key :: seen) record (← skim (← colon r))

/-- The record in an object. -/
def fromObject (shape : Shape ρ) (depth : Nat) (s : List Char) :
    Except Error (ρ × List Char) := do
  let (record, seen, r) ← shape.fromMembers depth (s.length + 1) [] shape.empty s
  match shape.fields.find? fun f => f.required && !seen.contains f.key with
  | some f => throw (.misshapen (.missing f.key))
  | none => return (record, r)

/-- Reads a record of the shape. -/
def decoder (shape : Shape ρ) : Decoder ρ := fun depth s =>
  match skipSpace s, depth with
  | '[' :: _, 0 => .error (.malformed .depth)
  | '\x7b' :: _, 0 => .error (.malformed .depth)
  | '[' :: r, d + 1 => shape.fromList d shape.fields 0 shape.empty r
  | '\x7b' :: r, d + 1 => shape.fromObject d r
  | s, _ => .error (refuse shape.name s)

/-- Reads a record from its own text. -/
def parse (shape : Shape ρ) (text : String) : Except Error ρ :=
  whole (shape.decoder maxDepth) text

end Shape

/-! ### Records inside values -/

/-- The error of a value of the wrong kind. -/
def Value.refuse (wanted : String) (v : Value) : Error := .misshapen (.wrongKind v.found wanted)

/-- The number that a value is. -/
def Value.asNumber : Value → Except Error Number
  | .number n => .ok n
  | v => .error (v.refuse "a JSON number")

end CameraGraph.Json
