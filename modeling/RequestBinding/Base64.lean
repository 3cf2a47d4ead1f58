import RequestBinding.Text.Utf8

/-! Bytes as text in base 64, with padding. There is one text for each list of bytes. -/

namespace RequestBinding

/-- Why a text stands for no bytes. Symbols are given as bytes with their offset. -/
inductive Base64Fault
  | symbol (byte : UInt8) (offset : Nat)
  | length (count : Nat)
  | lastSymbol (byte : UInt8) (offset : Nat)
  | padding
deriving DecidableEq, Repr

def Base64Fault.message : Base64Fault → String
  | symbol byte offset => "Invalid symbol " ++ toString byte.toNat ++ ", offset " ++ toString offset ++ "."
  | length count => "Invalid input length: " ++ toString count
  | lastSymbol byte offset =>
    "Invalid last symbol " ++ toString byte.toNat ++ ", offset " ++ toString offset ++ "."
  | padding => "Invalid padding"

namespace Base64

/-- The symbol of six bits. -/
def symbol (n : Nat) : Char :=
  if n < 26 then Char.ofNat (65 + n)
  else if n < 52 then Char.ofNat (71 + n)
  else if n < 62 then Char.ofNat (n - 4)
  else if n = 62 then '+'
  else '/'

def value? (b : UInt8) : Option Nat :=
  if 0x41 ≤ b ∧ b ≤ 0x5A then some (b.toNat - 65)
  else if 0x61 ≤ b ∧ b ≤ 0x7A then some (b.toNat - 71)
  else if 0x30 ≤ b ∧ b ≤ 0x39 then some (b.toNat + 4)
  else if b = 0x2B then some 62
  else if b = 0x2F then some 63
  else none

def pad : UInt8 := 0x3D

/-- Four symbols for three bytes; fewer bytes at the end are padded. -/
def encode : List UInt8 → List Char
  | a :: b :: c :: rest =>
    symbol (a.toNat / 4) :: symbol (a.toNat % 4 * 16 + b.toNat / 16) :: symbol (b.toNat % 16 * 4 + c.toNat / 64)
      :: symbol (c.toNat % 64) :: encode rest
  | [a, b] => [symbol (a.toNat / 4), symbol (a.toNat % 4 * 16 + b.toNat / 16), symbol (b.toNat % 16 * 4), '=']
  | [a] => [symbol (a.toNat / 4), symbol (a.toNat % 4 * 16), '=', '=']
  | [] => []

def valueAt (offset : Nat) (b : UInt8) : Except Base64Fault Nat :=
  match value? b with
  | some n => .ok n
  | none => .error (.symbol b offset)

/-- The bytes of four symbols. -/
def quad (offset : Nat) (a b c d : UInt8) : Except Base64Fault (List UInt8) := do
  let x ← valueAt offset a
  let y ← valueAt (offset + 1) b
  let z ← valueAt (offset + 2) c
  let w ← valueAt (offset + 3) d
  .ok [.ofNat (x * 4 + y / 16), .ofNat (y % 16 * 16 + z / 4), .ofNat (z % 4 * 64 + w)]

/-- The symbols and the padding that the last four bytes of a text, or fewer, are made of. -/
structure Ending where
  values : List Nat
  lastSymbol : UInt8
  pads : Nat

/-- Padding follows at least two symbols, and only padding follows padding. -/
def ending (start : Nat) (found : Ending) : List UInt8 → Except Base64Fault Ending
  | [] => .ok found
  | b :: rest =>
    let index := found.values.length + found.pads
    if b = pad then
      if index < 2 then .error (.symbol b (start + index))
      else ending start { found with pads := found.pads + 1 } rest
    else if found.pads ≠ 0 then .error (.symbol pad (start + found.values.length))
    else
      match value? b with
      | none => .error (.symbol b (start + index))
      | some n => ending start ⟨found.values ++ [n], b, 0⟩ rest

/-- The bytes of the last symbols, which leave no bits over. -/
def last (start : Nat) (text : List UInt8) : Except Base64Fault (List UInt8) := do
  let found ← ending start ⟨[], 0, 0⟩ text
  let count := found.values.length
  if text ≠ [] ∧ count < 2 then .error (.length (start + count))
  else if (count + found.pads) % 4 ≠ 0 then .error .padding
  else
    match found.values with
    | [x, y, z, w] => .ok [.ofNat (x * 4 + y / 16), .ofNat (y % 16 * 16 + z / 4), .ofNat (z % 4 * 64 + w)]
    | [x, y, z] =>
      if z % 4 = 0 then .ok [.ofNat (x * 4 + y / 16), .ofNat (y % 16 * 16 + z / 4)]
      else .error (.lastSymbol found.lastSymbol (start + 2))
    | [x, y] =>
      if y % 16 = 0 then .ok [.ofNat (x * 4 + y / 16)] else .error (.lastSymbol found.lastSymbol (start + 1))
    | _ => .ok []

def decodeFrom (offset : Nat) : List UInt8 → Except Base64Fault (List UInt8)
  | a :: b :: c :: d :: e :: rest => do
    let bytes ← quad offset a b c d
    let more ← decodeFrom (offset + 4) (e :: rest)
    .ok (bytes ++ more)
  | text => last offset text

/-- The first fault of a text whose last symbol stands alone is that symbol, if it is none. -/
def strayLast (text : List UInt8) : Option Base64Fault :=
  if text.length % 4 = 1 then
    match text.getLast? with
    | some b => if b ≠ pad ∧ value? b = none then some (.symbol b (text.length - 1)) else none
    | none => none
  else none

def decode (text : List UInt8) : Except Base64Fault (List UInt8) :=
  match strayLast text with
  | some fault => .error fault
  | none => decodeFrom 0 text

def text (bytes : List UInt8) : String := String.ofList (encode bytes)

def ofText (text : String) : Except Base64Fault (List UInt8) := decode (Utf8.encode text)

end Base64
end RequestBinding
