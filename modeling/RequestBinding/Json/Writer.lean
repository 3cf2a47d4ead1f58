import RequestBinding.Json.Value
import RequestBinding.Number.Shortest

/-! JSON values as compact text. -/

namespace RequestBinding.Json

def digits (n : Nat) : List Char := Nat.toDigits 10 n

/-- Where positional notation of floating-point numbers ends. -/
structure FloatLayout where
  leastPositional : Int
  firstScientific : Int

/-- Magnitudes from 0.00001 up to, and not including, 10000000000000000 are written positionally. -/
def floatLayout : FloatLayout := ⟨-5, 16⟩

/-- A positive decimal laid out around a point, with at least one digit on both sides. -/
def positional (text : List Char) (power : Int) : List Char :=
  let point : Int := text.length + power
  if 0 ≤ power then text ++ List.replicate power.toNat '0' ++ ['.', '0']
  else if 0 < point then text.take point.toNat ++ '.' :: text.drop point.toNat
  else '0' :: '.' :: List.replicate (-point).toNat '0' ++ text

/-- A positive decimal with one digit before the point and a signed exponent. -/
def scientific (text : List Char) (power : Int) : List Char :=
  let exponent : Int := power + text.length - 1
  let mantissa := match text with
    | first :: more => if more = [] then [first] else first :: '.' :: more
    | [] => []
  mantissa ++ ['e', if exponent < 0 then '-' else '+'] ++ digits exponent.natAbs

/-- A finite double with the fewest digits that read back. -/
def writeDouble (x : Double) : List Char :=
  let sign := if x.negative then ['-'] else []
  if x.isZero then sign ++ ['0', '.', '0']
  else
    let decimal := x.shortest
    let text := digits decimal.digits
    let exponent : Int := decimal.power + text.length - 1
    sign ++ if floatLayout.leastPositional ≤ exponent ∧ exponent < floatLayout.firstScientific
      then positional text decimal.power else scientific text decimal.power

def writeInt (n : Int) : List Char :=
  if n < 0 then '-' :: digits n.natAbs else digits n.natAbs

def Number.write : Number → List Char
  | .whole n => writeInt n.value
  | .fractional x => writeDouble x.value

def hexDigit (n : Nat) : Char := if n < 10 then Char.ofNat (48 + n) else Char.ofNat (87 + n)

/-- How a character is written inside quotes: only quotes, backslashes and controls are escaped. -/
def writeChar (c : Char) : List Char :=
  if c = '"' then ['\\', '"']
  else if c = '\\' then ['\\', '\\']
  else if c.toNat = 8 then ['\\', 'b']
  else if c.toNat = 12 then ['\\', 'f']
  else if c = '\n' then ['\\', 'n']
  else if c = '\r' then ['\\', 'r']
  else if c = '\t' then ['\\', 't']
  else if c.toNat < 32 then ['\\', 'u', '0', '0', hexDigit (c.toNat / 16), hexDigit (c.toNat % 16)]
  else [c]

def writeString (s : String) : List Char := '"' :: s.toList.flatMap writeChar ++ ['"']

mutual

def write : Json → List Char
  | .null => ['n', 'u', 'l', 'l']
  | .bool true => ['t', 'r', 'u', 'e']
  | .bool false => ['f', 'a', 'l', 's', 'e']
  | .number n => n.write
  | .string s => writeString s
  | .array items => '[' :: writeItems items
  | .object members => '{' :: writeMembers members

/-- Items up to the bracket that closes their array. -/
def writeItems : List Json → List Char
  | [] => [']']
  | item :: [] => write item ++ [']']
  | item :: rest => write item ++ ',' :: writeItems rest

/-- Members up to the brace that closes their object. -/
def writeMembers : List (String × Json) → List Char
  | [] => ['}']
  | (name, value) :: [] => writeString name ++ ':' :: (write value ++ ['}'])
  | (name, value) :: rest => writeString name ++ ':' :: (write value ++ ',' :: writeMembers rest)

end

def text (value : Json) : String := String.ofList (write value)

def Number.text (n : Number) : String := String.ofList n.write

end RequestBinding.Json
