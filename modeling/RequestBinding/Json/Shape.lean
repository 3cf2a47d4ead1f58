import RequestBinding.Entries
import RequestBinding.Json.Outline

/-! What a JSON value has to look like to be read as a value of a type, and how it is read: from text, where a
fault has a place, or from a JSON value. A record may stand as an object or as an array of its fields in order,
and its shape may refer to itself. -/

namespace RequestBinding.Json

/-- What becomes of a field that is not given: a fault; a value where the record is an object only; or a value. -/
inductive Absence (α : Type)
  | refused
  | inObject (value : α)
  | always (value : α)

mutual

/-- How a value is read as one of type `α`. The type `σ` is that of a record which the shape may refer to. -/
inductive Shape (σ : Type) : Type → Type 1
  | nothing : Shape σ Unit
  | bool : Shape σ Bool
  | string : Shape σ String
  | size : Shape σ Nat
  | int32 : Shape σ Int32
  | int64 : Shape σ Int64
  | json : Shape σ Json
  | list {α : Type} (item : Shape σ α) : Shape σ (List α)
  | dictionary {α : Type} (value : Shape σ α) : Shape σ (List (String × α))
  | choice {α : Type} (variants : List (String × α)) : Shape σ α
  | record {α : Type} (description : Record σ α) : Shape σ α
  | itself : Shape σ σ

/-- A named record; a strict one admits no other fields than its own. -/
inductive Record (σ : Type) : Type → Type 1
  | mk {α β : Type} (name : String) (strict : Bool) (fields : Fields σ β) (build : β → α) : Record σ α

/-- Fields in order, with the values found so far. A nullable field may be given as null. -/
inductive Fields (σ : Type) : Type → Type 1
  | nil : Fields σ Unit
  | field {α β : Type} (name : String) (shape : Shape σ α) (absence : Absence α) (found : Option α)
      (rest : Fields σ β) : Fields σ (α × β)
  | nullable {α β : Type} (name : String) (shape : Shape σ α) (absence : Absence (Option α))
      (found : Option (Option α)) (rest : Fields σ β) : Fields σ (Option α × β)

end

variable {σ ε : Type}

namespace Fields

def required {α β : Type} (name : String) (shape : Shape σ α) (rest : Fields σ β) : Fields σ (α × β) :=
  .field name shape .refused none rest

def withDefault {α β : Type} (name : String) (shape : Shape σ α) (value : α) (rest : Fields σ β) :
    Fields σ (α × β) :=
  .field name shape (.always value) none rest

/-- A nullable field that may be left out. -/
def optional {α β : Type} (name : String) (shape : Shape σ α) (rest : Fields σ β) : Fields σ (Option α × β) :=
  .nullable name shape (.always none) none rest

def names {β : Type} : Fields σ β → List String
  | nil => []
  | field name _ _ _ rest | nullable name _ _ _ rest => name :: rest.names

inductive Given (σ β : Type)
  | unknown
  | twice
  | taken (fields : Fields σ β)

/-- Passes an outcome for later fields on to all fields. -/
def Given.map {β γ : Type} (f : Fields σ β → Fields σ γ) : Given σ β → Given σ γ
  | unknown => .unknown
  | twice => .twice
  | taken fields => .taken (f fields)

/-- Gives the value at hand, read by `read`, to the field of a name, once. -/
def give {β : Type} (read : {α : Type} → Shape σ α → Except ε α) (isNull : Bool) (name : String) :
    Fields σ β → Except ε (Given σ β)
  | nil => .ok .unknown
  | field own shape absence found rest =>
    if name = own then
      if found.isSome then .ok .twice
      else (read shape).map fun value => .taken (.field own shape absence (some value) rest)
    else (rest.give read isNull name).map (Given.map (.field own shape absence found))
  | nullable own shape absence found rest =>
    if name = own then
      if found.isSome then .ok .twice
      else if isNull then .ok (.taken (.nullable own shape absence (some none) rest))
      else (read shape).map fun value => .taken (.nullable own shape absence (some (some value)) rest)
    else (rest.give read isNull name).map (Given.map (.nullable own shape absence found))

def complete {α : Type} (name : String) (absence : Absence α) : Option α → Except Mismatch α
  | some value => .ok value
  | none =>
    match absence with
    | .refused => .error (.missingField name)
    | .inObject value | .always value => .ok value

/-- The values of all fields at the end of an object. -/
def finish {β : Type} : Fields σ β → Except Mismatch β
  | nil => .ok ()
  | field name _ absence found rest => do .ok (← complete name absence found, ← rest.finish)
  | nullable name _ absence found rest => do .ok (← complete name absence found, ← rest.finish)

/-- The value of one field that the array of a record is too short for. -/
def beyond {α : Type} (mismatch : Mismatch) : Absence α → Except Mismatch α
  | .always value => .ok value
  | _ => .error mismatch

def finishArray {β : Type} (expected : String) (index : Nat) : Fields σ β → Except Mismatch β
  | nil => .ok ()
  | field _ _ absence _ rest => do
    .ok (← beyond (.wrongLength index expected) absence, ← rest.finishArray expected (index + 1))
  | nullable _ _ absence _ rest => do
    .ok (← beyond (.wrongLength index expected) absence, ← rest.finishArray expected (index + 1))

end Fields

namespace Record

def name {α : Type} : Record σ α → String
  | mk name _ _ _ => name

def strict {α : Type} : Record σ α → Bool
  | mk _ strict _ _ => strict

/-- The record built from its fields, which are read by `run`. -/
def build {α : Type} (run : {β : Type} → Fields σ β → Except ε β) : Record σ α → Except ε α
  | mk _ _ fields make => (run fields).map make

def expected {α : Type} (r : Record σ α) : String := "struct " ++ r.name

/-- The record as errors name it when its array is too short. -/
def expectedLength {α : Type} : Record σ α → String
  | mk name _ fields _ =>
    let count := fields.names.length
    "struct " ++ name ++ " with " ++ toString count ++ (if count = 1 then " element" else " elements")

end Record

/-- What errors say was expected in place of a value that has another type. -/
def Shape.expected {α : Type} (self : Record σ σ) : Shape σ α → String
  | .nothing => "unit"
  | .bool => "a boolean"
  | .string => "a string"
  | .size => "usize"
  | .int32 => "i32"
  | .int64 => "i64"
  | .json => "any valid JSON value"
  | .list _ => "a sequence"
  | .dictionary _ => "a map"
  | .choice _ => "string or map"
  | .record description => description.expected
  | .itself => self.expected

def boundedWhole (low high : Int) (expected : String) : Number → Except Mismatch Int
  | .whole n =>
    if low ≤ n.value ∧ n.value ≤ high then .ok n.value
    else .error (.wrongValue (.number (.whole n)) expected)
  | .fractional x => .error (.wrongType (.number (.fractional x)) expected)

def Shape.ofNumber {α : Type} (self : Record σ σ) (n : Number) : Shape σ α → Except Mismatch α
  | .size => (boundedWhole 0 0xFFFFFFFFFFFFFFFF "usize" n).map Int.toNat
  | .int32 => (boundedWhole (-0x80000000) 0x7FFFFFFF "i32" n).map Int32.ofInt
  | .int64 => (boundedWhole (-0x8000000000000000) 0x7FFFFFFFFFFFFFFF "i64" n).map Int64.ofInt
  | shape => .error (.wrongType (.number n) (shape.expected self))

def variantOf {α : Type} (variants : List (String × α)) (name : String) : Except Mismatch α :=
  match Entries.get? name variants with
  | some value => .ok value
  | none => .error (.unknownVariant name (variants.map Prod.fst))

end RequestBinding.Json
