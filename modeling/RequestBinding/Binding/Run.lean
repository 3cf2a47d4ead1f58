import RequestBinding.Binding.Resolve
import RequestBinding.Destination.Basic
import RequestBinding.Problem.Report

/-! Binding: every parameter is resolved in the order of declaration, and its value assigned to its field. -/

namespace RequestBinding

inductive Result
  | noField
  | bound (value : Value)
  | refused (value : Value) (fault : FieldFault)
  | absent
  | failed (problems : List Problem)

structure Binding where
  field : String
  parameter : Parameter
  result : Result

namespace Binding

def problems (b : Binding) : List Problem :=
  match b.result with
  | .noField => [b.parameter.problem .configuration (FieldFault.unknownField b.field).message]
  | .bound _ | .absent => []
  | .refused _ fault =>
    [⟨b.parameter.name, b.parameter.location, fault.kind, "cannot assign field '" ++ b.field ++ "': " ++ fault.message⟩]
  | .failed problems => problems

end Binding

namespace Binder

variable {σ : Type}

/-- Resolves one parameter and assigns its value. Nothing is read for a field that the destination lacks. -/
def bindOne (c : Context) (d : Destination σ) (field : String) (p : Parameter) (i : Intake) (s : σ) :
    Binding × Intake × σ :=
  if !d.hasField field then (⟨field, p, .noField⟩, i, s)
  else match p.resolve c field i with
    | (.bound value, i) =>
      match d.assign field value s with
      | (s, none) => (⟨field, p, .bound value⟩, i, s)
      | (s, some fault) => (⟨field, p, .refused value fault⟩, i, s)
    | (.absent, i) => (⟨field, p, .absent⟩, i, s)
    | (.failed problems, i) => (⟨field, p, .failed problems⟩, i, s)

def bindEach (c : Context) (d : Destination σ) : List (String × Parameter) → Intake → σ → List Binding × Intake × σ
  | [], i, s => ([], i, s)
  | (field, p) :: rest, i, s =>
    let (binding, i, s) := bindOne c d field p i s
    let (bindings, i, s) := bindEach c d rest i s
    (binding :: bindings, i, s)

/-- What a binding came to: what became of each parameter, the request and the destination after it. -/
structure Bound (σ : Type) where
  bindings : List Binding
  request : Request
  destination : σ

def Bound.report (b : Bound σ) : Report := ⟨b.bindings.flatMap Binding.problems⟩

def bind (b : Binder) (r : Request) (route : Route) (consumer : Consumer) (d : Destination σ) (s : σ) : Bound σ :=
  let (bindings, i, s) := bindEach ⟨route, consumer, b.limits, b.bodyField?⟩ d b.parameters (.ofRequest r) s
  ⟨bindings, i.request, s⟩

end Binder
end RequestBinding
