import RequestBinding.Text.Classes
import RequestBinding.Text.Utf8

/-! Lines of a file of variables. A line goes on behind a newline inside quotes. -/

namespace RequestBinding.Dotenv

/-- Why a file of variables cannot be read on: a line, or a part of one, with an index in it, or bytes that are no
text. -/
inductive Fault
  | line (text : String) (index : Nat)
  | undecodable
deriving DecidableEq, Repr

def Fault.message : Fault → String
  | line text index => "Error parsing line: '" ++ text ++ "', error at line index: " ++ toString index
  | undecodable => "stream did not contain valid UTF-8"

def byteLength (text : List Char) : Nat := (String.ofList text).utf8ByteSize

/-- What the characters of a line so far leave open. -/
inductive Spot
  | plain
  | blank
  | escape
  | single
  | singleEscape
  | double
  | doubleEscape
deriving DecidableEq, Repr

def opened (c : Char) : Spot :=
  if c = '\\' then .escape else if c = '"' then .double else if c = '\'' then .single else .plain

/-- What is open behind one more character. -/
def Spot.next (c : Char) : Spot → Spot
  | plain => if Text.isBlank c ∧ c ≠ '\n' ∧ c ≠ '\r' then .blank else opened c
  | blank => opened c
  | escape => .plain
  | double => if c = '\\' then .doubleEscape else if c = '"' then .plain else .double
  | doubleEscape => .double
  | single => if c = '\\' then .singleEscape else if c = '\'' then .plain else .single
  | singleEscape => .single

/-- What stands before a comment, which starts behind a blank. -/
def beforeComment? (spot : Spot) : List Char → Option (List Char)
  | [] => none
  | c :: rest => if spot = .blank ∧ c = '#' then some [] else (beforeComment? (spot.next c) rest).map (c :: ·)

def dropNewline (text : List Char) : List Char :=
  match text.reverse with
  | '\n' :: '\r' :: before => before.reverse
  | '\n' :: before => before.reverse
  | _ => text

/-- The bytes cut behind every newline, after some that were passed over. -/
def cutLines (passed : List UInt8) : List UInt8 → List (List UInt8)
  | [] => if passed = [] then [] else [passed.reverse]
  | b :: rest => if b = 0x0A then (b :: passed).reverse :: cutLines [] rest else cutLines (b :: passed) rest

structure Lines where
  lines : List String
  fault : Option Fault

def Lines.cons (line : List Char) (l : Lines) : Lines := { l with lines := String.ofList line :: l.lines }

/-- The lines of stretches that end with newlines, behind what is still open of the first line. Behind a comment
nothing of a line is open, and a line that is a comment is empty. -/
def joinLines (spot : Spot) (before : List Char) : List (List UInt8) → Lines
  | [] => ⟨[], if spot = .plain then none else some (.line (String.ofList before) (byteLength before))⟩
  | stretch :: rest =>
    match Utf8.decode? stretch with
    | none => ⟨[], some .undecodable⟩
    | some text =>
      let line := before ++ text.toList
      if (line.dropWhile Text.isBlank).head? = some '#' then (joinLines .plain [] rest).cons []
      else match beforeComment? spot text.toList with
        | some start => (joinLines .plain [] rest).cons (before ++ start)
        | none =>
          let after := text.toList.foldl (fun spot c => spot.next c) spot
          if after = .plain then (joinLines .plain [] rest).cons (dropNewline line) else joinLines after line rest

def linesOf (content : List UInt8) : Lines := joinLines .plain [] (cutLines [] content)

end RequestBinding.Dotenv
