import RequestBinding.Json.ShapeValue
import RequestBinding.Schema.Basic

/-! Schemas as JSON text. -/

namespace RequestBinding

def ValueType.shape {σ : Type} : Json.Shape σ ValueType := .choice variants

def CollectionFormat.shape {σ : Type} : Json.Shape σ CollectionFormat := .choice variants

namespace Schema

/-- How a schema stands in JSON text. Everything may be left out, and other members are passed over. -/
def document : Json.Record Schema Schema :=
  .mk "Schema" false
    (.withDefault "type" ValueType.shape .string
      (.optional "format" .string
        (.withDefault "collectionFormat" CollectionFormat.shape .csv
          (.optional "items" .itself
            (.withDefault "properties" (.dictionary .itself) []
              (.withDefault "required" (.list .string) [] .nil))))))
    fun (type, format, collectionFormat, items, properties, required, ()) =>
      ⟨type, format.map Format.ofName, collectionFormat, items, properties, required⟩

def ofText (text : String) : Except String Schema := document.readText (Utf8.encode text)

mutual

/-- The schema as a JSON value with its members in a fixed order, what is empty left out. -/
def toJson : Schema → Json
  | ⟨type, format, collectionFormat, items, properties, required⟩ =>
    .object ([("type", .string type.name)]
      ++ (match format with | none => [] | some f => [("format", .string f.name)])
      ++ [("collectionFormat", .string collectionFormat.name)]
      ++ itemsMember items
      ++ (match properties with | [] => [] | _ => [("properties", .object (propertiesToJson properties))])
      ++ (match required with | [] => [] | _ => [("required", .array (required.map .string))]))

def itemsMember : Option Schema → List (String × Json)
  | none => []
  | some items => [("items", items.toJson)]

def propertiesToJson : List (String × Schema) → List (String × Json)
  | [] => []
  | (name, property) :: rest => (name, property.toJson) :: propertiesToJson rest

end
end Schema
end RequestBinding
