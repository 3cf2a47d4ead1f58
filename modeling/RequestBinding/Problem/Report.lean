import RequestBinding.Problem.Basic

/-! Reports: all problems that one binding met, in order. -/

namespace RequestBinding

structure Report where
  problems : List Problem
deriving DecidableEq, Repr

namespace Report

def isValid (r : Report) : Bool := r.problems.isEmpty

/-- How much the status of a problem outweighs others: server errors before media types, before the rest. -/
def weight (status : Nat) : Nat :=
  if status = 500 then 2 else if status = 415 then 1 else 0

def weightier (status other : Nat) : Nat := if weight status < weight other then other else status

/-- The status of the weightiest problem, 200 where there is none. -/
def status (r : Report) : Nat :=
  match r.problems.map Problem.status with
  | [] => 200
  | first :: rest => rest.foldl weightier first

def messagesFor (r : Report) (parameter : String) : List String :=
  (r.problems.filter fun p => p.parameter == parameter).map Problem.message

def summary (r : Report) : String :=
  "request binding failed with " ++ toString r.problems.length ++ " error(s)"

def toJson (r : Report) : Json := .array (r.problems.map Problem.toJson)

/-- The body of a response that lists the problems. -/
def envelope (r : Report) : Json :=
  .object [("error", .object [("code", .string "BINDING_FAILED"),
    ("details", .array (r.problems.map Problem.detail)), ("message", .string r.summary)])]

end Report
end RequestBinding
