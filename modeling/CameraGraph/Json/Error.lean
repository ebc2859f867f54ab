import CameraGraph.Json.Value
import CameraGraph.Text.Quoted

/-!
# CameraGraph.Json.Error

Why a document was refused.

The causes fall into three groups: the text ended inside something, the text is no JSON, or it is
JSON of another shape than the document's. The wording of each cause is `Error.message`.
-/

namespace CameraGraph.Json

/-- What the text ended inside of. -/
inductive Part where
  /-- A list without its closing bracket. -/
  | list
  /-- An object without its closing brace. -/
  | object
  /-- A string without its closing quote. -/
  | string
  /-- A place where a value has to follow. -/
  | value
  deriving Repr, DecidableEq

/-- What makes a text no JSON. -/
inductive Malformed where
  /-- A key without its colon. -/
  | colon
  /-- Neither a comma nor the end after an item. -/
  | listSeparator
  /-- Neither a comma nor the end after a member. -/
  | objectSeparator
  /-- A misspelled `true`, `false` or `null`. -/
  | ident
  /-- A character that starts no value. -/
  | value
  /-- An unknown escape, or one whose digits are not hexadecimal. -/
  | escape
  /-- A number that breaks off or starts with a zero too many. -/
  | number
  /-- A number above the greatest finite one. -/
  | numberRange
  /-- A control character inside a string. -/
  | control
  /-- A member that does not start with a quote. -/
  | key
  /-- A surrogate escape that pairs with nothing. -/
  | loneSurrogate
  /-- A leading surrogate escape with no escape after it. -/
  | hexEscapeEnd
  /-- A comma before the end of a list or object. -/
  | trailingComma
  /-- Text after the end of what was to be read. -/
  | trailingText
  /-- More than 127 containers inside one another. -/
  | depth
  deriving Repr, DecidableEq

/-- A value that was found where another was wanted. -/
inductive Found where
  /-- `null`. -/
  | null
  /-- A boolean. -/
  | bool (b : Bool)
  /-- A number. -/
  | number (n : Number)
  /-- A string. -/
  | string (s : String)
  /-- A list. -/
  | list
  /-- An object. -/
  | object
  deriving Repr

/-- What makes well-formed JSON no document. -/
inductive Misshapen where
  /-- A value of the wrong kind, with what was wanted instead. -/
  | wrongKind (found : Found) (wanted : String)
  /-- A list of the wrong length, with what was wanted instead. -/
  | wrongLength (length : Nat) (wanted : String)
  /-- A member that has to be there and is not. -/
  | missing (key : String)
  /-- A member that is there twice. -/
  | repeated (key : String)
  /-- A value in none of the forms of a type. -/
  | noForm (type : String)
  /-- A list or object where a plain text or number was wanted. -/
  | notScalar (value : Value)
  deriving Repr

/-- Why a document was refused. -/
inductive Error where
  /-- The text ended too early. -/
  | ended (inside : Part)
  /-- The text is no JSON. -/
  | malformed (cause : Malformed)
  /-- The text is JSON of the wrong shape. -/
  | misshapen (cause : Misshapen)
  deriving Repr

/-- The name of a part. -/
def Part.message : Part → String
  | list => "EOF while parsing a list"
  | object => "EOF while parsing an object"
  | string => "EOF while parsing a string"
  | value => "EOF while parsing a value"

/-- The wording of a malformed text. -/
def Malformed.message : Malformed → String
  | colon => "expected `:`"
  | listSeparator => "expected `,` or `]`"
  | objectSeparator => "expected `,` or `\x7d`"
  | ident => "expected ident"
  | value => "expected value"
  | escape => "invalid escape"
  | number => "invalid number"
  | numberRange => "number out of range"
  | control => "control character (\\u0000-\\u001F) found while parsing a string"
  | key => "key must be a string"
  | loneSurrogate => "lone leading surrogate in hex escape"
  | hexEscapeEnd => "unexpected end of hex escape"
  | trailingComma => "trailing comma"
  | trailingText => "trailing characters"
  | depth => "recursion limit exceeded"

/-- How a found value is named. -/
def Found.message : Found → String
  | null => "null"
  | bool b => "boolean `" ++ (if b then "true" else "false") ++ "`"
  | number (.integer z) => "integer `" ++ intText z ++ "`"
  | number (.real x) => "floating point `" ++ x.text ++ "`"
  | string s => "string " ++ Text.quoted s
  | list => "sequence"
  | object => "map"

/-- The wording of a misshapen document. -/
def Misshapen.message : Misshapen → String
  | wrongKind found wanted => "invalid type: " ++ found.message ++ ", expected " ++ wanted
  | wrongLength n wanted => "invalid length " ++ natText n ++ ", expected " ++ wanted
  | missing key => "missing field `" ++ key ++ "`"
  | repeated key => "duplicate field `" ++ key ++ "`"
  | noForm type => "data did not match any variant of untagged enum " ++ type
  | notScalar v => "expected a string or number, found " ++ v.compact

/-- The wording of an error. -/
def Error.message : Error → String
  | ended inside => inside.message
  | malformed cause => cause.message
  | misshapen cause => cause.message

/-- How a value is named where another was wanted. -/
def Value.found : Value → Found
  | .null => .null
  | .bool b => .bool b
  | .number n => .number n
  | .string s => .string s
  | .list _ => .list
  | .object _ => .object

end CameraGraph.Json
