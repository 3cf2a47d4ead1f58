import RequestBinding.Base64
import RequestBinding.Calendar.Timestamp
import RequestBinding.Entries
import RequestBinding.Json.Value
import RequestBinding.Upload

/-! Values of parameters. -/

namespace RequestBinding

/-- A value as its declaration types it. Members of an object stand in the order in which they were found. -/
inductive Value
  | boolean (value : Bool)
  | int32 (value : Int32)
  | int64 (value : Int64)
  | float (value : Single)
  | double (value : Double)
  | string (value : String)
  | date (value : Date)
  | timestamp (value : Timestamp)
  | bytes (value : List UInt8)
  | array (items : List Value)
  | object (members : List (String × Value))
  | json (value : Json)
  | file (value : Upload)

namespace Value

def typeName : Value → String
  | boolean _ => "boolean"
  | int32 _ => "int32"
  | int64 _ => "int64"
  | float _ => "float"
  | double _ => "double"
  | string _ => "string"
  | date _ => "date"
  | timestamp _ => "date-time"
  | bytes _ => "byte"
  | array _ => "array"
  | object _ => "object"
  | json _ => "json"
  | file _ => "file"

/-- A floating-point number as JSON, null where it is not finite. -/
def doubleToJson (x : Double) : Json :=
  match Json.Number.ofDouble? x with
  | some n => .number n
  | none => .null

mutual

/-- The value as JSON, from which its declaration reads it back. A file becomes what is known of it. -/
def toJson : Value → Json
  | boolean b => .bool b
  | int32 n => .number (.ofInt32 n)
  | int64 n => .number (.ofInt64 n)
  | float x => doubleToJson (x.convert .double)
  | double x => doubleToJson x
  | string s => .string s
  | date d => .string d.text
  | timestamp t => .string t.text
  | bytes b => .string (Base64.text b)
  | array items => .array (itemsToJson items)
  | object members => .object (Entries.sorted (membersToJson members))
  | json v => v
  | file u => u.toJson

def itemsToJson : List Value → List Json
  | [] => []
  | item :: rest => item.toJson :: itemsToJson rest

def membersToJson : List (String × Value) → List (String × Json)
  | [] => []
  | (name, value) :: rest => (name, value.toJson) :: membersToJson rest

end
end Value
end RequestBinding
