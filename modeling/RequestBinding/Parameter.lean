import RequestBinding.Schema.Document

/-! Parameters: the expected inputs of an operation. -/

namespace RequestBinding

inductive Location
  | path
  | query
  | header
  | form
  | file
  | body
  | unrecognized (name : String)
deriving DecidableEq, Repr

namespace Location

/-- The name in a document. -/
def name : Location → String
  | path => "path"
  | query => "query"
  | header => "header"
  | form => "formData"
  | file => "file"
  | body => "body"
  | unrecognized name => name

/-- The name as errors show it. -/
def label : Location → String
  | form => "form"
  | other => other.name

def ofName (name : String) : Location :=
  match name with
  | "path" => path
  | "query" => query
  | "header" => header
  | "formData" => form
  | "form" => form
  | "file" => file
  | "body" => body
  | _ => unrecognized name

def isRecognized : Location → Bool
  | unrecognized _ => false
  | _ => true

end Location

structure Parameter where
  name : String
  location : Location
  schema : Schema
  required : Bool
  default : Option Json

namespace Parameter

/-- An optional string at a location. -/
def ofName (name : String) (location : Location) : Parameter := ⟨name, location, .string, false, none⟩

/-- A path variable, which is required. -/
def path (name : String) : Parameter := { ofName name .path with required := true }

def query (name : String) : Parameter := ofName name .query

def header (name : String) : Parameter := ofName name .header

def form (name : String) : Parameter := ofName name .form

def file (name : String) : Parameter := { ofName name .file with schema := .ofType .file }

def body (name : String) (schema : Schema) : Parameter := { ofName name .body with schema := schema }

def typed (p : Parameter) (type : ValueType) (format : Option Format) : Parameter :=
  { p with schema := { p.schema with type := type, format := format } }

/-- Makes the parameter an array of items of a schema. -/
def collectionOf (p : Parameter) (items : Schema) (format : CollectionFormat) : Parameter :=
  { p with schema := { p.schema with type := .array, items := some items, collectionFormat := format } }

def withRequired (p : Parameter) (required : Bool) : Parameter := { p with required := required }

def withDefault (p : Parameter) (default : Json) : Parameter := { p with default := some default }

def isArray (p : Parameter) : Bool := p.schema.type == .array

/-- An uploaded file is bound, whatever the location. -/
def isFile (p : Parameter) : Bool := p.location == .file || p.schema.type == .file

/-- How a parameter stands in JSON text. A default that is null is none. -/
def document : Json.Record Schema Parameter :=
  .mk "ParamDescriptor" false
    (.required "name" .string
      (.required "in" .string
        (.withDefault "schema" .itself .string
          (.withDefault "required" .bool false
            (.optional "default" .json .nil)))))
    fun (name, location, schema, required, default, ()) =>
      ⟨name, .ofName location, schema, required, default⟩

def ofText (text : String) : Except String Parameter :=
  Json.Document.readWith (fun root => root.read Schema.document Json.nestingLimit (.record document))
    (Utf8.encode text)

def toJson (p : Parameter) : Json :=
  .object ([("name", .string p.name), ("in", .string p.location.name), ("schema", p.schema.toJson),
      ("required", .bool p.required)]
    ++ match p.default with | none => [] | some d => [("default", d)])

end Parameter
end RequestBinding
