import RequestBinding.Parameter
import RequestBinding.Problem.Kind

/-! Problems with parameters, one by one. -/

namespace RequestBinding

/-- What is wrong with a parameter. The parameter may be a property of a declared one, named with dots. -/
structure Problem where
  parameter : String
  location : Location
  kind : Kind
  message : String
deriving DecidableEq, Repr

namespace Problem

/-- The sentence that a kind of problem is told in. -/
def sentence (kind : Kind) (location parameter details : String) : String :=
  match kind with
  | .missingRequired => "missing required " ++ location ++ " parameter: " ++ parameter
  | .malformedValue => "invalid " ++ location ++ " parameter '" ++ parameter ++ "': " ++ details
  | .malformedCollection => "invalid " ++ location ++ " collection '" ++ parameter ++ "': " ++ details
  | .unsupportedMediaType => "cannot bind " ++ location ++ " parameter '" ++ parameter ++ "': " ++ details
  | .decodeFailure => "failed to decode " ++ location ++ " parameter '" ++ parameter ++ "': " ++ details
  | .configuration => "misconfigured parameter '" ++ parameter ++ "': " ++ details

def of (kind : Kind) (location : Location) (parameter details : String) : Problem :=
  ⟨parameter, location, kind, sentence kind location.label parameter details⟩

def missing (location : Location) (parameter : String) : Problem := of .missingRequired location parameter ""

def status (p : Problem) : Nat := p.kind.status

def code (p : Problem) : String := p.kind.code

def toJson (p : Problem) : Json :=
  .object [("parameter", .string p.parameter), ("location", .string p.location.name),
    ("kind", .string p.kind.name), ("message", .string p.message)]

/-- The problem as it stands in a response, with its code. -/
def detail (p : Problem) : Json :=
  .object [("code", .string p.code), ("kind", .string p.kind.name), ("location", .string p.location.name),
    ("message", .string p.message), ("parameter", .string p.parameter)]

end Problem
end RequestBinding
