import RequestBinding.Destination.Basic

/-! Destinations with a fixed table of fields, some of which are tables themselves. -/

namespace RequestBinding

/-- What stands at a name of a table: a field that reads a value, or a table for the members of an object. -/
inductive Slot (γ : Type)
  | field (read : Value → Except FieldFault γ)
  | table (slots : List (String × Slot γ))

/-- What a slot recorded: the value of a field, or the records of a table. -/
inductive Recorded (γ : Type)
  | value (found : γ)
  | table (records : List (String × Recorded γ))

namespace Slot

variable {γ : Type}

mutual

/-- The record that a slot makes of a value, if it makes one, and its refusal. A table keeps what it recorded
before a refusal. -/
def record (value : Value) : Slot γ → Option (Recorded γ) × Option FieldFault
  | field read =>
    match read value with
    | .ok found => (some (.value found), none)
    | .error fault => (none, some fault)
  | table slots =>
    let (records, fault) :=
      Destination.spread ⟨fun _ => true, fun name value records => assignTo slots name value records⟩ value []
    (some (.table records), fault)

def assignTo (slots : List (String × Slot γ)) (name : String) (value : Value) (records : List (String × Recorded γ)) :
    List (String × Recorded γ) × Option FieldFault :=
  match slots with
  | [] => (records, some (.unknownField name))
  | (other, slot) :: rest =>
    if name = other then
      match slot.record value with
      | (some made, fault) => (records ++ [(name, made)], fault)
      | (none, fault) => (records, fault)
    else assignTo rest name value records

end
end Slot

/-- The destination that a table of slots is. A closed one has no other fields than its slots. -/
def Destination.table {γ : Type} (closed : Bool) (slots : List (String × Slot γ)) :
    Destination (List (String × Recorded γ)) :=
  ⟨fun name => !closed || Entries.has name slots, Slot.assignTo slots⟩

end RequestBinding
