import RequestBinding.NamedValues
import RequestBinding.Collection
import RequestBinding.Text.Utf8

/-! Names and values in one text: pairs joined by ampersands, with escapes. -/

namespace RequestBinding.UrlEncoded

def hexValue? (b : UInt8) : Option Nat :=
  if 0x30 ≤ b ∧ b ≤ 0x39 then some (b.toNat - 48)
  else if 0x41 ≤ b ∧ b ≤ 0x46 then some (b.toNat - 55)
  else if 0x61 ≤ b ∧ b ≤ 0x66 then some (b.toNat - 87)
  else none

def escaped? (high low : UInt8) : Option UInt8 :=
  match hexValue? high, hexValue? low with
  | some h, some l => some (.ofNat (h * 16 + l))
  | _, _ => none

/-- The bytes that a name or a value stands for, behind those already found, which stand in reverse. -/
def decodeOnto (found : List UInt8) : List UInt8 → List UInt8
  | [] => found.reverse
  | 0x25 :: high :: low :: rest =>
    match escaped? high low with
    | some b => decodeOnto (b :: found) rest
    | none => decodeOnto (0x25 :: found) (high :: low :: rest)
  | b :: rest => decodeOnto ((if b = 0x2B then 0x20 else b) :: found) rest

/-- The bytes that a name or a value stands for. What is no escape stands for itself, a plus sign for a blank. -/
def decode (bytes : List UInt8) : List UInt8 := decodeOnto [] bytes

def component (bytes : List UInt8) : String := Utf8.decodeLossy (decode bytes)

/-- The name and the value of a pair, cut at the first equals sign. -/
def pair (bytes : List UInt8) : String × String :=
  (component (bytes.takeWhile (· != 0x3D)), component ((bytes.dropWhile (· != 0x3D)).drop 1))

def pairs (bytes : List UInt8) : List (String × String) :=
  ((stretches 0x26 bytes).filter (· ≠ [])).map pair

/-- The named values in a text, whatever the text is. -/
def parse (bytes : List UInt8) : NamedValues := .ofPairs (pairs bytes)

def parseQuery (query : Option String) : NamedValues :=
  match query with
  | some text => parse (Utf8.encode text)
  | none => .empty

/-- The first percent sign that two digits do not follow, with the bytes that do, two of them at most. -/
def badEscape? : List UInt8 → Option (List UInt8)
  | [] => none
  | 0x25 :: high :: low :: rest =>
    match escaped? high low with
    | some _ => badEscape? rest
    | none => some [0x25, high, low]
  | 0x25 :: rest => some (0x25 :: rest)
  | _ :: rest => badEscape? rest

inductive Fault
  | invalidEscape (bytes : List UInt8)

def Fault.message : Fault → String
  | invalidEscape bytes => "invalid URL escape \"" ++ Utf8.decodeLossy bytes ++ "\""

/-- The named values of a form, in which every escape must be one. -/
def parseForm (body : List UInt8) : Except Fault NamedValues :=
  match badEscape? body with
  | some bytes => .error (.invalidEscape bytes)
  | none => .ok (parse body)

end RequestBinding.UrlEncoded
