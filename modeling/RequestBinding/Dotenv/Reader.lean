import RequestBinding.Dotenv.Assignment
import RequestBinding.Entries

/-! Files of variables. -/

namespace RequestBinding

/-- The variables of a file up to its first fault, in order. -/
structure Dotenv where
  entries : List (String × String)
  fault : Option Dotenv.Fault

namespace Dotenv

def cons (entry : String × String) (d : Dotenv) : Dotenv := { d with entries := entry :: d.entries }

/-- The value of a variable: the first that is known of it, or nothing. -/
def valueIn (known : List (String × String)) (name : String) : String := (Entries.get? name known).getD ""

/-- The variables of lines. A value may refer to variables of the environment, which go first, and to those of the
lines before it; of several with one name `first` tells whether the first or the last counts. -/
def ofLines (environment : List (String × String)) (first : Bool) (fault : Option Fault)
    (before : List (String × String)) : List String → Dotenv
  | [] => ⟨[], fault⟩
  | line :: rest =>
    match readLine (valueIn (environment ++ before)) line with
    | .error fault => ⟨[], some fault⟩
    | .ok none => ofLines environment first fault before rest
    | .ok (some entry) =>
      (ofLines environment first fault (if first then before ++ [entry] else entry :: before) rest).cons entry

def read (environment : List (String × String)) (content : List UInt8) : Dotenv :=
  let found := linesOf content
  ofLines environment false found.fault [] found.lines

/-- The file without the mark of its byte order. -/
def dropMark : List UInt8 → List UInt8
  | 0xEF :: 0xBB :: 0xBF :: rest => rest
  | content => content

/-- Adds the variables of a file to an environment, which keeps those it has. At the first fault the rest of the
file is left out. -/
def addTo (environment : List (String × String)) (content : List UInt8) : List (String × String) :=
  let found := linesOf (dropMark content)
  (ofLines environment true found.fault [] found.lines).entries.foldl (fun known entry =>
    if Entries.has entry.1 known then known else known ++ [entry]) environment

end Dotenv
end RequestBinding
