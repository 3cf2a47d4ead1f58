import RequestBinding.Settings.Setting

/-! Settings taken from variables. The name of a variable is a common start, two underscores, and the path to a
setting with two underscores between its names; the case of the path does not matter. -/

namespace RequestBinding

/-- A variable whose value is none of the setting that it names. -/
structure VariableFault where
  name : String
  reason : String
deriving DecidableEq, Repr

namespace Setting

/-- The path to the setting as it stands in the names of variables. -/
def variableName (k : Setting) : String := Text.upperCase ("__".intercalate k.path)

def ofVariable? (start name : String) : Option Setting :=
  let opening := start.toList ++ ['_', '_']
  if opening.isPrefixOf name.toList then
    let path := Text.upperCase (String.ofList (name.toList.drop opening.length))
    all.find? fun k => k.variableName = path
  else none

end Setting

namespace Settings

/-- The settings after one variable. -/
def withVariable (start : String) (s : Settings) (v : String × String) : Except VariableFault Settings :=
  match Setting.ofVariable? start v.1 with
  | none => .ok s
  | some k =>
    match Setting.read v.2 k with
    | .ok value => .ok (s.set k value)
    | .error reason => .error ⟨v.1, reason⟩

def withVariables (start : String) (s : Settings) (entries : List (String × String)) :
    Except VariableFault Settings :=
  entries.foldlM (withVariable start) s

end Settings
end RequestBinding
