import RequestBinding.Entries

/-! Schemas of values: a type, refined by a format, with items and properties of their own. -/

namespace RequestBinding

inductive ValueType
  | string
  | integer
  | number
  | boolean
  | array
  | object
  | file
deriving DecidableEq, Repr

namespace ValueType

def name : ValueType → String
  | string => "string"
  | integer => "integer"
  | number => "number"
  | boolean => "boolean"
  | array => "array"
  | object => "object"
  | file => "file"

def variants : List (String × ValueType) :=
  [string, integer, number, boolean, array, object, file].map fun t => (t.name, t)

end ValueType

/-- The refinement of a type; one that is not understood has no effect. -/
inductive Format
  | int32
  | int64
  | float
  | double
  | date
  | dateTime
  | byte
  | other (name : String)
deriving DecidableEq, Repr

namespace Format

def name : Format → String
  | int32 => "int32"
  | int64 => "int64"
  | float => "float"
  | double => "double"
  | date => "date"
  | dateTime => "date-time"
  | byte => "byte"
  | other name => name

def ofName (name : String) : Format :=
  match name with
  | "int32" => int32
  | "int64" => int64
  | "float" => float
  | "double" => double
  | "date" => date
  | "date-time" => dateTime
  | "byte" => byte
  | _ => other name

end Format

/-- How the items of an array stand in one place: joined by a separator, or each by itself. -/
inductive CollectionFormat
  | csv
  | ssv
  | tsv
  | pipes
  | multi
deriving DecidableEq, Repr

namespace CollectionFormat

def name : CollectionFormat → String
  | csv => "csv"
  | ssv => "ssv"
  | tsv => "tsv"
  | pipes => "pipes"
  | multi => "multi"

def variants : List (String × CollectionFormat) := [csv, ssv, tsv, pipes, multi].map fun f => (f.name, f)

def separator? : CollectionFormat → Option Char
  | csv => some ','
  | ssv => some ' '
  | tsv => some '\t'
  | pipes => some '|'
  | multi => none

end CollectionFormat

/-- The shape of a value. Items without a schema are plain strings. -/
structure Schema where
  type : ValueType
  format : Option Format
  collectionFormat : CollectionFormat
  items : Option Schema
  properties : List (String × Schema)
  required : List String

namespace Schema

def ofType (type : ValueType) : Schema := ⟨type, none, .csv, none, [], []⟩

def string : Schema := ofType .string

def array (items : Schema) : Schema := { ofType .array with items := some items }

def withFormat (s : Schema) (format : Format) : Schema := { s with format := some format }

def withCollectionFormat (s : Schema) (format : CollectionFormat) : Schema :=
  { s with collectionFormat := format }

/-- Declares a property, or declares it anew in its place. -/
def withProperty (s : Schema) (name : String) (property : Schema) : Schema :=
  { s with properties := Entries.put name property s.properties }

def withRequiredProperty (s : Schema) (name : String) (property : Schema) : Schema :=
  { s.withProperty name property with required := s.required ++ [name] }

def requires (s : Schema) (name : String) : Bool := s.required.contains name

/-- Type and format as errors show them. -/
def label (s : Schema) : String :=
  match s.format with
  | some format => s.type.name ++ "/" ++ format.name
  | none => s.type.name

end Schema
end RequestBinding
