import RequestBinding.Destination.Basic
import RequestBinding.Json.ShapeValue

/-! Values converted to the types of fields. -/

namespace RequestBinding

inductive FieldType
  | bool
  | int32
  | int64
  | float
  | double
  | string
  | date
  | timestamp
  | utc
  | bytes
  | file
  | json
  | value
  | members
  | list (item : FieldType)
  | optional (held : FieldType)
deriving DecidableEq, Repr

namespace FieldType

/-- What a field of a type holds. -/
def Content : FieldType → Type
  | bool => Bool
  | int32 => Int32
  | int64 => Int64
  | float => Single
  | double => Double
  | string => String
  | date => Date
  | timestamp => Timestamp
  | utc => Timestamp
  | bytes => List UInt8
  | file => Upload
  | json => Json
  | value => Value
  | members => List (String × Value)
  | list item => List item.Content
  | optional held => Option held.Content

end FieldType

namespace Value

def toBool : Value → Except FieldFault Bool
  | .boolean b | .json (.bool b) => .ok b
  | other => .error (.mismatch "boolean" other)

def toInt64 : Value → Except FieldFault Int64
  | .int64 n => .ok n
  | .int32 n => .ok n.toInt64
  | .json (.number n) =>
    match n.toInt64? with
    | some found => .ok found
    | none => .error (.mismatch "int64" (.json (.number n)))
  | other => .error (.mismatch "int64" other)

/-- An integer as one of 32 bits, if it is small enough. -/
def narrow? (n : Int64) : Option Int32 :=
  if -0x80000000 ≤ n.toInt ∧ n.toInt < 0x80000000 then some (Int32.ofInt n.toInt) else none

def toInt32 : Value → Except FieldFault Int32
  | .int32 n => .ok n
  | .int64 n =>
    match narrow? n with
    | some found => .ok found
    | none => .error (.invalid (toString n.toInt ++ " overflows int32"))
  | .json (.number n) =>
    match n.toInt64?.bind narrow? with
    | some found => .ok found
    | none => .error (.mismatch "int32" (.json (.number n)))
  | other => .error (.mismatch "int32" other)

/-- A double, declared as of either precision or in JSON. -/
def toDouble : Value → Except FieldFault Double
  | .double x => .ok x
  | .float x => .ok (x.convert .double)
  | .json (.number n) => .ok n.toDouble
  | other => .error (.mismatch "double" other)

def toSingle : Value → Except FieldFault Single
  | .float x => .ok x
  | .json (.number n) =>
    let x := n.toDouble.convert .single
    if x.isFinite then .ok x else .error (.mismatch "float" (.json (.number n)))
  | other => .error (.mismatch "float" other)

/-- A string, declared as without format or in JSON. -/
def toText : Value → Except FieldFault String
  | .string s | .json (.string s) => .ok s
  | other => .error (.mismatch "string" other)

def toDate : Value → Except FieldFault Date
  | .date d => .ok d
  | other => .error (.mismatch "date" other)

def toTimestamp : Value → Except FieldFault Timestamp
  | .timestamp t => .ok t
  | other => .error (.mismatch "date-time" other)

def toBytes : Value → Except FieldFault (List UInt8)
  | .bytes b => .ok b
  | other => .error (.mismatch "byte" other)

def toUpload : Value → Except FieldFault Upload
  | .file u => .ok u
  | other => .error (.mismatch "file" other)

def toMembers : Value → Except FieldFault (List (String × Value))
  | .object members => .ok members
  | .json (.object members) => .ok (members.map fun (name, value) => (name, .json value))
  | other => .error (.mismatch "object" other)

def toItems : Value → Except FieldFault (List Value)
  | .array items => .ok items
  | .json (.array items) => .ok (items.map .json)
  | other => .error (.mismatch "array" other)

def isNull : Value → Bool
  | .json .null => true
  | _ => false

/-- What a field of some type holds after it took the value. -/
def convert : (type : FieldType) → Value → Except FieldFault type.Content
  | .bool, v => v.toBool
  | .int32, v => v.toInt32
  | .int64, v => v.toInt64
  | .float, v => v.toSingle
  | .double, v => v.toDouble
  | .string, v => v.toText
  | .date, v => v.toDate
  | .timestamp, v => v.toTimestamp
  | .utc, v => v.toTimestamp.map Timestamp.inUtc
  | .bytes, v => v.toBytes
  | .file, v => v.toUpload
  | .json, v => .ok v.toJson
  | .value, v => .ok v
  | .members, v => v.toMembers
  | .list item, v => do
    let items ← v.toItems
    items.mapM (convert item)
  | .optional held, v => if v.isNull then .ok none else (convert held v).map some

def readAs {α : Type} (shape : Json.Shape Unit α) (v : Value) : Except FieldFault α :=
  (Json.as shape v.toJson).mapError fun m => .invalid m.message

end Value
end RequestBinding
