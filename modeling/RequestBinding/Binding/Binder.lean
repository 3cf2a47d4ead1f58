import RequestBinding.Limits
import RequestBinding.Parameter

/-! Binders: which parameters go to which fields, within which limits. -/

namespace RequestBinding

/-- Parameters by the field that they are bound to, in the order of their declaration. -/
structure Binder where
  parameters : List (String × Parameter)
  limits : Limits
  fields_nodup : (parameters.map Prod.fst).Nodup
  limits_valid : limits.fault? = none

inductive BinderFault
  | limit (fault : LimitFault)
  | duplicateField (name : String)
deriving DecidableEq, Repr

def BinderFault.message : BinderFault → String
  | limit fault => fault.message
  | duplicateField name => "field '" ++ name ++ "' is declared more than once"

namespace Binder

/-- The first name that was there before. -/
def firstRepeated (before : List String) : List String → Option String
  | [] => none
  | name :: rest => if name ∈ before then some name else firstRepeated (name :: before) rest

theorem nodup_of_firstRepeated {before names : List String} (h : firstRepeated before names = none) :
    names.Nodup ∧ ∀ name ∈ names, name ∉ before := by
  induction names generalizing before with
  | nil => simp
  | cons name rest ih =>
    simp only [firstRepeated] at h
    split at h
    · simp at h
    · rename_i fresh
      obtain ⟨nodup, disjoint⟩ := ih h
      refine ⟨List.nodup_cons.2 ⟨fun mem => disjoint name mem (by simp), nodup⟩, fun other mem => ?_⟩
      rcases List.mem_cons.1 mem with rfl | mem
      · exact fresh
      · exact fun found => disjoint other mem (List.mem_cons_of_mem _ found)

/-- The binder that declarations make. Limits are looked at first. -/
def ofParameters (parameters : List (String × Parameter)) (limits : Limits) : Except BinderFault Binder :=
  match valid : limits.fault? with
  | some fault => .error (.limit fault)
  | none =>
    match distinct : firstRepeated [] (parameters.map Prod.fst) with
    | some name => .error (.duplicateField name)
    | none => .ok ⟨parameters, limits, (nodup_of_firstRepeated distinct).1, valid⟩

def parameter? (b : Binder) (field : String) : Option Parameter := Entries.get? field b.parameters

/-- The field that the body goes to: that of the first parameter in the body. -/
def bodyField? (b : Binder) : Option String :=
  (b.parameters.find? fun (_, p) => p.location == .body).map Prod.fst

end Binder
end RequestBinding
