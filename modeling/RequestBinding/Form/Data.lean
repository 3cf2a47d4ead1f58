import RequestBinding.NamedValues
import RequestBinding.Upload

/-! The data of a form: texts, and files of which each is handed out once. -/

namespace RequestBinding

inductive FormFile
  | ready (file : Upload)
  | claimed

structure FormData where
  values : NamedValues
  files : List (String × FormFile)

inductive FileLookup
  | found (file : Upload)
  | textField
  | missing
  | alreadyClaimed

namespace FormData

def ofValues (values : NamedValues) : FormData := ⟨values, []⟩

def empty : FormData := ofValues .empty

def append (name text : String) (d : FormData) : FormData := { d with values := d.values.append name text }

/-- Adds a file, unless there is one of its name. -/
def insertFile (file : Upload) (d : FormData) : FormData :=
  if Entries.has file.field d.files then d
  else { d with files := Entries.put file.field (.ready file) d.files }

def hasFile (name : String) (d : FormData) : Bool := Entries.has name d.files

/-- Hands out the file of a name, which is claimed from then on. -/
def takeFile (name : String) (d : FormData) : FileLookup × FormData :=
  match Entries.get? name d.files with
  | some (.ready file) => (.found file, { d with files := Entries.put name .claimed d.files })
  | some .claimed => (.alreadyClaimed, d)
  | none => (if d.values.contains name then .textField else .missing, d)

end FormData
end RequestBinding
