import RequestBinding.Base64
import RequestBinding.Calendar.Timestamp
import RequestBinding.Json.Fault
import RequestBinding.Number.DecimalText
import RequestBinding.Problem.Kind
import RequestBinding.Schema.Basic

/-! Why a value does not fit its schema, and where. -/

namespace RequestBinding.Coercion

inductive TextFault
  | integer (fault : IntegerFault)
  | decimal (fault : DecimalFault)
  | notFinite
  | boolean
  | calendar (fault : CalendarFault)
  | base64 (fault : Base64Fault)

def TextFault.message : TextFault → String
  | integer fault => fault.message
  | decimal fault => fault.message
  | notFinite => "value is not finite"
  | boolean => "expected 'true' or 'false'"
  | calendar fault => fault.message
  | base64 fault => fault.message

/-- Why the value at some place does not fit. Types are given by their label. -/
inductive Cause
  | missing
  | notText (text label : String) (fault : TextFault)
  | notJson (message : String)
  | notFile
  | mismatch (label found : String)
  | notInteger (number : Json.Number) (label : String)
  | beyondInt32 (number : Int64)
  | beyondFloat (number : Json.Number) (label : String)

namespace Cause

def message : Cause → String
  | missing => "missing required property"
  | notText text label fault => "'" ++ text ++ "' is not a valid " ++ label ++ ": " ++ fault.message
  | notJson message => "invalid JSON object: " ++ message
  | notFile => "expected a file part, found text"
  | mismatch label found => "expected " ++ label ++ ", found " ++ found
  | notInteger number label => number.text ++ " is not a valid " ++ label
  | beyondInt32 number => toString number.toInt ++ " is out of range for integer/int32"
  | beyondFloat number label => number.text ++ " is not a finite " ++ label

/-- The kind of problem that a cause is at the place itself. -/
def kind : Cause → Kind
  | missing => .missingRequired
  | _ => .malformedValue

end Cause

/-- A step from a value into it. -/
inductive Step
  | property (name : String)
  | item (index : Nat)
deriving DecidableEq, Repr

namespace Step

def segment : Step → String
  | property name => name
  | item index => toString index

end Step

/-- A place that fails, as it is told from around it: the steps that lead to it, their dotted path, the kind of problem,
and a message. -/
structure Failure where
  steps : List Step
  path : String
  kind : Kind
  message : String

namespace Failure

def here (cause : Cause) : Failure := ⟨[], "", cause.kind, cause.message⟩

/-- One more step leads to the place. Without a path behind it, the step is the whole path. -/
def behind (step : Step) (f : Failure) : Failure :=
  { f with
    steps := step :: f.steps
    path := if f.path = "" then step.segment else step.segment ++ "." ++ f.path }

/-- The place is in an item of a collection. It is the collection that is malformed then, and the message names the
item, unless the path leads on from it. -/
def inItem (index : Nat) (f : Failure) : Failure :=
  behind (.item index) { f with
    kind := if f.kind = .malformedValue then .malformedCollection else f.kind
    message := if f.path = "" then "item " ++ toString index ++ ": " ++ f.message else f.message }

/-- A failure seen from one step further out. -/
def within : Step → Failure → Failure
  | .property name, f => f.behind (.property name)
  | .item index, f => f.inItem index

end Failure
end RequestBinding.Coercion
