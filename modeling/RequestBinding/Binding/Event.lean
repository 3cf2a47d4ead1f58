import RequestBinding.Binding.Run

/-! Events: what a log says about a binding. -/

namespace RequestBinding

/-- Something worth a line in a log. -/
inductive Event
  | bound (field parameter type : String)
  | absent (field parameter : String)
  | problem (problem : Problem)
  | finished (parameters problems : Nat)
  | settingsLoaded (bodySize fields : Nat) (level : String)

/-- How much an event matters: one for a close look at each parameter, or one for finding out what went wrong. -/
inductive Severity
  | trace
  | debug
deriving DecidableEq, Repr

namespace Severity

def name : Severity → String
  | trace => "TRACE"
  | debug => "DEBUG"

end Severity

namespace Event

def severity : Event → Severity
  | bound .. | absent .. => .trace
  | problem _ | finished .. | settingsLoaded .. => .debug

def message : Event → String
  | bound .. => "bound parameter"
  | absent .. => "parameter absent"
  | problem p => p.message
  | finished .. => "request binding finished"
  | settingsLoaded .. => "settings loaded"

/-- What stands in a log beside the message, by name. -/
def details : Event → List (String × String)
  | bound field parameter type => [("field", field), ("parameter", parameter), ("value", type)]
  | absent field parameter => [("field", field), ("parameter", parameter)]
  | problem p => [("parameter", p.parameter), ("location", p.location.label), ("kind", p.kind.label)]
  | finished parameters problems => [("params", toString parameters), ("errors", toString problems)]
  | settingsLoaded bodySize fields level =>
    [("max_body_size", toString bodySize), ("multipart_max_fields", toString fields), ("log_level", level)]

end Event

/-- What a log says about one parameter. -/
def Binding.events (b : Binding) : List Event :=
  let met := b.problems.map Event.problem
  match b.result with
  | .bound value | .refused value _ => .bound b.field b.parameter.name value.typeName :: met
  | .absent => [.absent b.field b.parameter.name]
  | .noField | .failed _ => met

end RequestBinding
