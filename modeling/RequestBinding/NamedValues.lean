import RequestBinding.Schema.Basic

/-! Named values: under each name all texts that were given for it. -/

namespace RequestBinding

/-- The texts of each name, names in the order in which they first appeared. -/
structure NamedValues where
  entries : List (String × List String)
deriving DecidableEq, Repr

namespace NamedValues

def empty : NamedValues := ⟨[]⟩

def append (name text : String) (v : NamedValues) : NamedValues :=
  ⟨Entries.update name [] (· ++ [text]) v.entries⟩

def ofPairs (pairs : List (String × String)) : NamedValues :=
  pairs.foldl (fun v (name, text) => v.append name text) empty

def all? (name : String) (v : NamedValues) : Option (List String) := Entries.get? name v.entries

def first? (name : String) (v : NamedValues) : Option String := (v.all? name).bind List.head?

def contains (name : String) (v : NamedValues) : Bool := Entries.has name v.entries

/-- The texts given for a query parameter: all of them for an array without separator, else the first. -/
def fragments (v : NamedValues) (name : String) (format : Option CollectionFormat) : Option (List String) :=
  match format with
  | some .multi => v.all? name
  | _ => (v.all? name).bind fun all => all.head?.map fun first => [first]

end NamedValues
end RequestBinding
