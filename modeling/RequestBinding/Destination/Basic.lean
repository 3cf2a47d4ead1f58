import RequestBinding.Entries
import RequestBinding.Problem.Kind
import RequestBinding.Value

/-! Destinations: what values are assigned to, field by field, and why they refuse a value. -/

namespace RequestBinding

/-- A destination refuses a value: it has no such field, the field holds values of another type, or there is another
reason, in words of its own. -/
inductive FieldFault
  | unknownField (name : String)
  | typeMismatch (expected found : String)
  | invalid (text : String)

namespace FieldFault

def mismatch (expected : String) (value : Value) : FieldFault := .typeMismatch expected value.typeName

def message : FieldFault → String
  | unknownField name => "destination has no field '" ++ name ++ "'"
  | typeMismatch expected found => "expected " ++ expected ++ ", found " ++ found
  | invalid text => text

def kind : FieldFault → Kind
  | unknownField _ => .configuration
  | typeMismatch .. | invalid _ => .malformedValue

end FieldFault

/-- A destination whose state is of type `σ`. It says of a name whether it has such a field, and takes a value
for a field or refuses it. -/
structure Destination (σ : Type) where
  hasField : String → Bool
  assign : String → Value → σ → σ × Option FieldFault

namespace Destination

/-- Fields in the order in which they were first assigned; every name is a field. -/
def ordered : Destination (List (String × Value)) := ⟨fun _ => true, fun name value s => (Entries.put name value s, none)⟩

/-- Fields sorted by name; every name is a field. -/
def sorted : Destination (List (String × Value)) := ⟨fun _ => true, fun name value s => (Entries.insert name value s, none)⟩

variable {σ : Type}

/-- Assigns members one by one, up to the first that is refused. -/
def assignAll (d : Destination σ) : List (String × Value) → σ → σ × Option FieldFault
  | [], s => (s, none)
  | (name, value) :: rest, s =>
    match d.assign name value s with
    | (s, none) => d.assignAll rest s
    | (s, some fault) => (s, some fault)

/-- Assigns every member of an object, declared or in JSON. -/
def spread (d : Destination σ) (value : Value) (s : σ) : σ × Option FieldFault :=
  match value with
  | .object members => d.assignAll members s
  | .json (.object members) => d.assignAll (members.map fun (name, value) => (name, .json value)) s
  | other => (s, some (.mismatch "object" other))

end Destination

end RequestBinding
