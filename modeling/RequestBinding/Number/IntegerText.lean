/-! Integers written in decimal, read within bounds. -/

namespace RequestBinding

inductive IntegerFault
  | empty
  | invalidDigit
  | tooLarge
  | tooSmall
deriving DecidableEq, Repr

namespace IntegerFault

def message : IntegerFault → String
  | empty => "cannot parse integer from empty string"
  | invalidDigit => "invalid digit found in string"
  | tooLarge => "number too large to fit in target type"
  | tooSmall => "number too small to fit in target type"

end IntegerFault

namespace IntegerText

def digit? (c : Char) : Option Nat := if c.isDigit then some (c.toNat - '0'.toNat) else none

/-- Reads digits after those that make `value`, up to the first that is none or that passes the limit. -/
def digitsWithin (limit : Nat) (beyond : IntegerFault) (value : Nat) : List Char → Except IntegerFault Nat
  | [] => .ok value
  | c :: rest =>
    match digit? c with
    | none => .error .invalidDigit
    | some d =>
      if value * 10 + d ≤ limit then digitsWithin limit beyond (value * 10 + d) rest else .error beyond

/-- At least one digit, nothing else. -/
def unsigned (limit : Nat) (beyond : IntegerFault) (text : List Char) : Except IntegerFault Nat :=
  match text with
  | [] => .error .invalidDigit
  | _ => digitsWithin limit beyond 0 text

/-- Reads an integer between `low` and `high`; a minus sign is no sign where the bounds exclude it. -/
def read (low high : Int) (text : List Char) : Except IntegerFault Int :=
  match text with
  | [] => .error .empty
  | '+' :: rest => (unsigned high.toNat .tooLarge rest).map Int.ofNat
  | '-' :: rest =>
    if low < 0 then (unsigned (-low).toNat .tooSmall rest).map fun n => -(n : Int)
    else .error .invalidDigit
  | _ => (unsigned high.toNat .tooLarge text).map Int.ofNat

def readInt32 (text : List Char) : Except IntegerFault Int32 :=
  (read (-0x80000000) 0x7FFFFFFF text).map Int32.ofInt

def readInt64 (text : List Char) : Except IntegerFault Int64 :=
  (read (-0x8000000000000000) 0x7FFFFFFFFFFFFFFF text).map Int64.ofInt

/-- Reads a size, a natural number of 64 bits. -/
def readSize (text : List Char) : Except IntegerFault Nat :=
  (read 0 0xFFFFFFFFFFFFFFFF text).map Int.toNat

end IntegerText
end RequestBinding
