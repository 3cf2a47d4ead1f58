import RequestBinding.Coercion.Scalar
import RequestBinding.Collection
import RequestBinding.Json.Outline

/-! Coercion: values read from text or from JSON as a schema has them. Every place that fails is reported. -/

namespace RequestBinding.Coercion

inductive Input
  | text (value : String)
  | json (value : Json)

/-- The JSON value in a text. While it is a string, the value in that string instead; each is shorter than
the text around it. -/
def unwrap (text : String) : Except String Json :=
  match Json.read (Utf8.encode text) with
  | .error message => .error message
  | .ok (.string inner) =>
    if inner.utf8ByteSize < text.utf8ByteSize then unwrap inner else .ok (.string inner)
  | .ok value => .ok value
termination_by text.utf8ByteSize

def membersOf (label : String) (input : Input) : Except Cause (List (String × Json)) :=
  let value := match input with
    | .text t | .json (.string t) => unwrap t
    | .json v => .ok v
  match value with
  | .error message => .error (.notJson message)
  | .ok (.object members) => .ok members
  | .ok other => .error (.mismatch label other.kind)

def itemsOf (format : CollectionFormat) (label : String) (input : Input) : Except Cause (List Input) :=
  match input with
  | .text t | .json (.string t) => .ok ((format.inOneText.split [t]).map .text)
  | .json (.array items) => .ok (items.map .json)
  | .json other => .error (.mismatch label other.kind)

def scalar (type : ValueType) (format : Option Format) : Input → Except Cause Value
  | .text t => scalarOfText type format t
  | .json v => scalarOfJson type format v

/-- A result for one place, with its failure as the only one. -/
def atPlace {α : Type} (result : Except Cause α) : Except (List Failure) α :=
  result.mapError fun cause => [.here cause]

/-- Both results, or the failures of both. -/
def both {α β : Type} (first : Except (List Failure) α) (second : Except (List Failure) β) :
    Except (List Failure) (α × β) :=
  match first, second with
  | .ok a, .ok b => .ok (a, b)
  | .ok _, .error failures => .error failures
  | .error failures, .ok _ => .error failures
  | .error failures, .error more => .error (failures ++ more)

/-- A result seen from one step further out. -/
def within {α : Type} (step : Step) (result : Except (List Failure) α) : Except (List Failure) α :=
  result.mapError (List.map (Failure.within step))

/-- The results for all items from an index on, or all their failures. -/
def each {α : Type} (read : Input → Except (List Failure) α) (index : Nat) :
    List Input → Except (List Failure) (List α)
  | [] => .ok []
  | input :: rest =>
    (both (within (.item index) (read input)) (each read (index + 1) rest)).map fun (a, b) => a :: b

/-- A member that is there and not null. -/
def present? (name : String) (members : List (String × Json)) : Option Json :=
  match Entries.get? name members with
  | some .null => none
  | found => found

/-- The members that no property declares, kept as they are. -/
def undeclared (properties : List (String × Schema)) (members : List (String × Json)) : List (String × Value) :=
  (members.filter fun (name, _) => !Entries.has name properties).map fun (name, value) => (name, .json value)

mutual

/-- The value that an input stands for under a schema. -/
def coerce (input : Input) : Schema → Except (List Failure) Value
  | ⟨type, format, collectionFormat, items, properties, required⟩ =>
    match type with
    | .array =>
      match itemsOf collectionFormat (labelOf type format) input with
      | .error cause => .error [.here cause]
      | .ok inputs => (coerceItems inputs items).map .array
    | .object =>
      match membersOf (labelOf type format) input with
      | .error cause => .error [.here cause]
      | .ok members =>
        if properties.isEmpty then .ok (.json (.object members))
        else (coerceProperties required members properties).map fun declared =>
          .object (declared ++ undeclared properties members)
    | _ => atPlace (scalar type format input)

/-- The values that items stand for, plain strings where they have no schema. -/
def coerceItems (inputs : List Input) : Option Schema → Except (List Failure) (List Value)
  | none => each (fun input => atPlace (scalar .string none input)) 0 inputs
  | some schema => each (fun input => coerce input schema) 0 inputs

/-- The values of declared properties that are present, in the order of their declaration. -/
def coerceProperties (required : List String) (members : List (String × Json)) :
    List (String × Schema) → Except (List Failure) (List (String × Value))
  | [] => .ok []
  | (name, schema) :: rest =>
    let later := coerceProperties required members rest
    match present? name members with
    | some value =>
      (both (within (.property name) (coerce (.json value) schema)) later).map fun (a, b) => (name, a) :: b
    | none =>
      if required.contains name then
        (both (within (.property name) (.error [.here .missing])) later).map fun ((_ : Unit), b) => b
      else later

end

def ofText (schema : Schema) (text : String) : Except (List Failure) Value := coerce (.text text) schema

def ofJson (schema : Schema) (value : Json) : Except (List Failure) Value := coerce (.json value) schema

def ofItems (schema : Schema) (items : List String) : Except (List Failure) Value :=
  (coerceItems (items.map .text) schema.items).map .array

end RequestBinding.Coercion
