import RequestBinding.Number.Binary
import RequestBinding.Number.IntegerText

/-! Floating-point numbers written in decimal, read to the nearest number. -/

namespace RequestBinding

inductive DecimalFault
  | empty
  | invalid
deriving DecidableEq, Repr

namespace DecimalFault

def message : DecimalFault → String
  | empty => "cannot parse float from empty string"
  | invalid => "invalid float literal"

end DecimalFault

namespace DecimalText

/-- The value of digits read after those that make `value`. -/
def digitsValue (value : Nat) (digits : List Char) : Nat :=
  digits.foldl (fun n c => n * 10 + (c.toNat - '0'.toNat)) value

/-- An exponent with its mark, or nothing at all. -/
def readExponent : List Char → Option Int
  | [] => some 0
  | mark :: rest =>
    if mark = 'e' ∨ mark = 'E' then
      let (negative, digits) := match rest with
        | '-' :: digits => (true, digits)
        | '+' :: digits => (false, digits)
        | digits => (false, digits)
      if digits ≠ [] ∧ digits.all Char.isDigit then
        let value : Int := digitsValue 0 digits
        some (if negative then -value else value)
      else none
    else none

/-- Digits with an optional point and an optional exponent; a digit may be missing on one side of the point. -/
def readDigits (p : Precision) (negative : Bool) (text : List Char) : Option (Binary p) :=
  let whole := text.takeWhile Char.isDigit
  let (fraction, rest) := match text.dropWhile Char.isDigit with
    | '.' :: after => (after.takeWhile Char.isDigit, after.dropWhile Char.isDigit)
    | rest => ([], rest)
  if whole = [] ∧ fraction = [] then none
  else (readExponent rest).map fun exponent =>
    Binary.ofDecimal p negative (digitsValue 0 (whole ++ fraction)) (exponent - fraction.length)

/-- A number after its sign; infinity and the undefined number have names, in letters of either case. -/
def readUnsigned (p : Precision) (negative : Bool) (text : List Char) : Option (Binary p) :=
  let name := String.ofList (text.map Char.toLower)
  let sign := if negative then Nat.pow 2 p.magnitudeWidth else 0
  if name = "inf" ∨ name = "infinity" then some (Binary.ofBits p (sign + p.infinite))
  else if name = "nan" then some (Binary.ofBits p (sign + p.infinite + Nat.pow 2 (p.fraction - 1)))
  else readDigits p negative text

def read (p : Precision) (text : List Char) : Except DecimalFault (Binary p) :=
  let found := match text with
    | [] => none
    | '-' :: rest => readUnsigned p true rest
    | '+' :: rest => readUnsigned p false rest
    | _ => readUnsigned p false text
  match found with
  | some x => .ok x
  | none => .error (if text = [] then .empty else .invalid)

end DecimalText
end RequestBinding
