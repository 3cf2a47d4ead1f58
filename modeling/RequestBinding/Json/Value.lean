import RequestBinding.Number.Binary

/-! JSON values. -/

namespace RequestBinding

namespace Json

/-- An integer that JSON text keeps exactly: one of 64 bits, signed or unsigned. -/
structure Whole where
  value : Int
  least : -0x8000000000000000 ≤ value
  greatest : value < 0x10000000000000000
deriving DecidableEq

structure Fractional where
  value : Double
  finite : value.isFinite = true
deriving DecidableEq

/-- A number, exact where it is an integer of 64 bits. -/
inductive Number
  | whole (n : Whole)
  | fractional (x : Fractional)
deriving DecidableEq

namespace Number

/-- The number of an integer, if it has one. -/
def ofInt? (n : Int) : Option Number :=
  if h : -0x8000000000000000 ≤ n ∧ n < 0x10000000000000000 then some (.whole ⟨n, h.1, h.2⟩) else none

private theorem int32_range (n : Int32) : -0x8000000000000000 ≤ n.toInt ∧ n.toInt < 0x10000000000000000 := by
  have := n.le_toInt
  have := n.toInt_lt
  omega

private theorem int64_range (n : Int64) : -0x8000000000000000 ≤ n.toInt ∧ n.toInt < 0x10000000000000000 := by
  have := n.le_toInt
  have := n.toInt_lt
  omega

def ofInt32 (n : Int32) : Number := .whole ⟨n.toInt, (int32_range n).1, (int32_range n).2⟩

def ofInt64 (n : Int64) : Number := .whole ⟨n.toInt, (int64_range n).1, (int64_range n).2⟩

def ofDouble? (x : Double) : Option Number :=
  if h : x.isFinite = true then some (.fractional ⟨x, h⟩) else none

/-- The number as a signed integer of 64 bits, if it is written as one. -/
def toInt64? : Number → Option Int64
  | .whole n => if n.value < 0x8000000000000000 then some (Int64.ofInt n.value) else none
  | .fractional _ => none

def toDouble : Number → Double
  | .whole n => Binary.ofInt .double n.value
  | .fractional x => x.value

end Number
end Json

/-- A JSON value. The members of an object stand in the order of their list. -/
inductive Json
  | null
  | bool (value : Bool)
  | number (value : Json.Number)
  | string (value : String)
  | array (items : List Json)
  | object (members : List (String × Json))

namespace Json

def kind : Json → String
  | null => "null"
  | bool _ => "boolean"
  | number _ => "number"
  | string _ => "string"
  | array _ => "array"
  | object _ => "object"

/-- The integer as a value, nothing for one beyond 64 bits. -/
def ofInt (n : Int) : Json :=
  match Number.ofInt? n with
  | some found => .number found
  | none => .null

end Json
end RequestBinding
