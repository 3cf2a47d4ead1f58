import RequestBinding.Json.Writer
import RequestBinding.Text.Quoted

/-! What is wrong with a JSON text, or with a value read for some purpose. -/

namespace RequestBinding.Json

inductive Breach
  | endInValue
  | endInObject
  | endInList
  | endInString
  | expectedValue
  | expectedIdent
  | expectedColon
  | expectedCommaOrBrace
  | expectedCommaOrBracket
  | keyMustBeString
  | trailingComma
  | trailingCharacters
  | invalidNumber
  | numberOutOfRange
  | invalidEscape
  | endInHexEscape
  | loneSurrogate
  | controlCharacter
  | invalidCodePoint
  | recursionLimit
deriving DecidableEq, Repr

def Breach.message : Breach → String
  | endInValue => "EOF while parsing a value"
  | endInObject => "EOF while parsing an object"
  | endInList => "EOF while parsing a list"
  | endInString => "EOF while parsing a string"
  | expectedValue => "expected value"
  | expectedIdent => "expected ident"
  | expectedColon => "expected `:`"
  | expectedCommaOrBrace => "expected `,` or `\x7d`"
  | expectedCommaOrBracket => "expected `,` or `]`"
  | keyMustBeString => "key must be a string"
  | trailingComma => "trailing comma"
  | trailingCharacters => "trailing characters"
  | invalidNumber => "invalid number"
  | numberOutOfRange => "number out of range"
  | invalidEscape => "invalid escape"
  | endInHexEscape => "unexpected end of hex escape"
  | loneSurrogate => "lone leading surrogate in hex escape"
  | controlCharacter => "control character (\\u0000-\\u001F) found while parsing a string"
  | invalidCodePoint => "invalid unicode code point"
  | recursionLimit => "recursion limit exceeded"

/-- What was found where something else was expected. -/
inductive Found
  | null
  | bool (value : Bool)
  | number (value : Number)
  | string (value : String)
  | sequence
  | map

def Found.describe : Found → String
  | null => "null"
  | bool true => "boolean `true`"
  | bool false => "boolean `false`"
  | number (.whole n) => "integer `" ++ (Number.whole n).text ++ "`"
  | number (.fractional x) => "floating point `" ++ (Number.fractional x).text ++ "`"
  | string s => "string " ++ Text.quoted s
  | sequence => "sequence"
  | map => "map"

/-- A value that does not fit the purpose it is read for. -/
inductive Mismatch
  | wrongType (found : Found) (expected : String)
  | wrongValue (found : Found) (expected : String)
  | wrongLength (length : Nat) (expected : String)
  | unknownField (name : String) (known : List String)
  | unknownVariant (name : String) (known : List String)
  | missingField (name : String)
  | duplicateField (name : String)

def alternatives (names : List String) : String :=
  match names with
  | [] => "there are no fields"
  | [one] => "expected `" ++ one ++ "`"
  | [one, two] => "expected `" ++ one ++ "` or `" ++ two ++ "`"
  | many => "expected one of " ++ ", ".intercalate (many.map fun name => "`" ++ name ++ "`")

def Mismatch.message : Mismatch → String
  | wrongType found expected => "invalid type: " ++ found.describe ++ ", expected " ++ expected
  | wrongValue found expected => "invalid value: " ++ found.describe ++ ", expected " ++ expected
  | wrongLength length expected => "invalid length " ++ toString length ++ ", expected " ++ expected
  | unknownField name known => "unknown field `" ++ name ++ "`, " ++ alternatives known
  | unknownVariant name known => "unknown variant `" ++ name ++ "`, " ++ alternatives known
  | missingField name => "missing field `" ++ name ++ "`"
  | duplicateField name => "duplicate field `" ++ name ++ "`"

inductive Cause
  | breach (b : Breach)
  | mismatch (m : Mismatch)

def Cause.message : Cause → String
  | breach b => b.message
  | mismatch m => m.message

/-- A fault in a text, and how many bytes of it were read to find the fault. -/
structure Fault where
  cause : Cause
  offset : Nat

def Breach.at (b : Breach) (offset : Nat) : Fault := ⟨.breach b, offset⟩

def Mismatch.at (m : Mismatch) (offset : Nat) : Fault := ⟨.mismatch m, offset⟩

/-- Line, counted from one, and bytes read of it. -/
def position (text : List UInt8) (offset : Nat) : Nat × Nat :=
  (text.take offset).foldl (fun ((line, column) : Nat × Nat) (b : UInt8) =>
    if b = 0x0A then (line + 1, 0) else (line, column + 1)) (1, 0)

def Fault.message (text : List UInt8) (f : Fault) : String :=
  let (line, column) := position text f.offset
  f.cause.message ++ " at line " ++ toString line ++ " column " ++ toString column

end RequestBinding.Json
