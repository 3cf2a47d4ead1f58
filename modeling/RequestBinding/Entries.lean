/-! Lists of named entries, each name at the place where it first appeared. -/

namespace RequestBinding.Entries

variable {α : Type}

/-- Puts an entry instead of the one of its name, or at the end. -/
def put (name : String) (value : α) : List (String × α) → List (String × α)
  | [] => [(name, value)]
  | (other, old) :: rest => if name = other then (name, value) :: rest else (other, old) :: put name value rest

/-- Changes the entry of a name, which starts from a given value where there is none. -/
def update (name : String) (start : α) (change : α → α) : List (String × α) → List (String × α)
  | [] => [(name, change start)]
  | (other, old) :: rest =>
    if name = other then (other, change old) :: rest else (other, old) :: update name start change rest

def get? (name : String) : List (String × α) → Option α
  | [] => none
  | (other, value) :: rest => if name = other then some value else get? name rest

def has (name : String) (entries : List (String × α)) : Bool := (get? name entries).isSome

/-- Puts an entry in its place by name, instead of one of the same name. -/
def insert (name : String) (value : α) : List (String × α) → List (String × α)
  | [] => [(name, value)]
  | (other, old) :: rest =>
    if name = other then (name, value) :: rest
    else if name < other then (name, value) :: (other, old) :: rest
    else (other, old) :: insert name value rest

/-- The entries sorted by name; of entries of one name the last stays. -/
def sorted (entries : List (String × α)) : List (String × α) :=
  entries.foldl (fun done (name, value) => insert name value done) []

end RequestBinding.Entries
