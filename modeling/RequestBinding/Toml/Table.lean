import RequestBinding.Entries
import RequestBinding.Json.Value

/-! Tables of TOML while they are built up from headers and keys. -/

namespace RequestBinding.Toml

/-- How a table came to be: by a header of its own, by the header of a table within it, or by keys with dots. -/
inductive Origin
  | header
  | implied
  | dotted
deriving DecidableEq, Repr

/-- What stands under a key: a value that is complete, a table, or an array of tables. -/
inductive Item
  | value (v : Json)
  | table (origin : Origin) (entries : List (String × Item))
  | tables (elements : List (List (String × Item)))

namespace Item

mutual

def toJson : Item → Json
  | value v => v
  | table _ entries => .object (Entries.sorted (entriesToJson entries))
  | tables elements => .array (elementsToJson elements)

def entriesToJson : List (String × Item) → List (String × Json)
  | [] => []
  | (name, item) :: rest => (name, item.toJson) :: entriesToJson rest

def elementsToJson : List (List (String × Item)) → List Json
  | [] => []
  | entries :: rest => .object (Entries.sorted (entriesToJson entries)) :: elementsToJson rest

end
end Item

/-- Changes a table within a table, along a path. Tables on the path that are not there come to be; keys with dots
do not lead through a table that has a header. -/
def within (made : Origin) (change : Origin → List (String × Item) → Option (List (String × Item)))
    (origin : Origin) (entries : List (String × Item)) : List String → Option (List (String × Item))
  | [] => change origin entries
  | key :: path =>
    match (Entries.get? key entries).getD (.table made []) with
    | .value _ => none
    | .tables elements =>
      match elements.reverse with
      | [] => none
      | last :: before =>
        (within made change .header last path).map fun changed =>
          Entries.put key (.tables (changed :: before).reverse) entries
    | .table own inner =>
      if made = .dotted ∧ own = .header then none
      else (within made change own inner path).map fun changed => Entries.put key (.table own changed) entries

/-- Adds a value under a key that is new, to a table that keys with dots led to only if such keys made it. -/
def addValue (key : String) (v : Item) (throughDots : Bool) (origin : Origin) (entries : List (String × Item)) :
    Option (List (String × Item)) :=
  if throughDots ∧ origin ≠ .dotted then none
  else if Entries.has key entries then none
  else some (Entries.put key v entries)

def splitLast (path : List String) : Option (List String × String) :=
  match path.reverse with
  | last :: before => some (before.reverse, last)
  | [] => none

def assign (keys : List String) (v : Item) (origin : Origin) (entries : List (String × Item)) :
    Option (List (String × Item)) :=
  (splitLast keys).bind fun (path, key) => within .dotted (addValue key v !path.isEmpty) origin entries path

/-- Opens the table of a header, which must be new or implied. -/
def openTable (path : List String) (root : List (String × Item)) : Option (List (String × Item)) :=
  (splitLast path).bind fun (parent, key) =>
    within .implied (fun _ entries =>
      match Entries.get? key entries with
      | none => some (Entries.put key (.table .header []) entries)
      | some (.table .implied inner) => some (Entries.put key (.table .header inner) entries)
      | _ => none) .header root parent

def openElement (path : List String) (root : List (String × Item)) : Option (List (String × Item)) :=
  (splitLast path).bind fun (parent, key) =>
    within .implied (fun _ entries =>
      match Entries.get? key entries with
      | none => some (Entries.put key (.tables [[]]) entries)
      | some (.tables elements) => some (Entries.put key (.tables (elements ++ [[]])) entries)
      | _ => none) .header root parent

/-- Adds a value under keys with dots to the table that a header opened. -/
def assignUnder (header keys : List String) (v : Item) (root : List (String × Item)) :
    Option (List (String × Item)) :=
  within .implied (fun origin entries => assign keys v origin entries) .header root header

end RequestBinding.Toml
