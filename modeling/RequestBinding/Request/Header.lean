import RequestBinding.Entries
import RequestBinding.Text.Utf8

/-! Headers of a request. -/

namespace RequestBinding

def isTokenByte (b : UInt8) : Bool :=
  (decide (0x30 ≤ b) && decide (b ≤ 0x39)) || (decide (0x41 ≤ b) && decide (b ≤ 0x5A))
    || (decide (0x5E ≤ b) && decide (b ≤ 0x7A))
    || [0x21, 0x23, 0x24, 0x25, 0x26, 0x27, 0x2A, 0x2B, 0x2D, 0x2E, 0x7C, 0x7E].contains b

/-- A byte that shows as itself in a header, the tab included. -/
def isVisibleByte (b : UInt8) : Bool := (decide (0x20 ≤ b) && decide (b < 0x7F)) || b == 0x09

/-- The text of bytes that are characters by themselves. -/
def asciiText (bytes : List UInt8) : String := String.ofList (bytes.map fun b => Char.ofNat b.toNat)

namespace Header

def nameLimit : Nat := 65536

/-- The name of a header, a token in which case does not count. -/
def name? (bytes : List UInt8) : Option String :=
  if bytes ≠ [] ∧ bytes.all isTokenByte ∧ bytes.length < nameLimit then
    some (String.ofList ((asciiText bytes).toList.map Char.toLower))
  else none

/-- The value of a header has no control characters but the tab. -/
def isValue (bytes : List UInt8) : Bool := bytes.all fun b => (decide (0x20 ≤ b) && b != 0x7F) || b == 0x09

/-- The text of a value that has visible characters alone. -/
def text? (value : List UInt8) : Option String :=
  if value.all isVisibleByte then some (asciiText value) else none

def shownByte (b : UInt8) : List Char :=
  if b = 0x22 then ['\\', '"']
  else if isVisibleByte b then [Char.ofNat b.toNat]
  else '\\' :: 'x' :: Nat.toDigits 16 b.toNat

def shown (value : List UInt8) : String := String.ofList ('"' :: value.flatMap shownByte ++ ['"'])

end Header

/-- Headers by name, each name at the place where it first appeared. -/
structure Headers where
  entries : List (String × List (List UInt8))
deriving DecidableEq, Repr

namespace Headers

def empty : Headers := ⟨[]⟩

/-- Adds a value, unless name or value cannot stand in a header. -/
def append (name value : List UInt8) (h : Headers) : Headers :=
  match Header.name? name with
  | some found => if Header.isValue value then ⟨Entries.update found [] (· ++ [value]) h.entries⟩ else h
  | none => h

def ofPairs (pairs : List (List UInt8 × List UInt8)) : Headers :=
  pairs.foldl (fun h (name, value) => h.append name value) empty

/-- The first value of a name in lower case. -/
def first? (name : String) (h : Headers) : Option (List UInt8) := (Entries.get? name h.entries).bind List.head?

/-- The first value of a header named in any case. No header has a name that is no token. -/
def named? (name : String) (h : Headers) : Option (String × List UInt8) :=
  (Header.name? (Utf8.encode name)).bind fun found => (h.first? found).map fun value => (found, value)

/-- The text of the first value of a header, or what is wrong with it. -/
def text? (name : String) (h : Headers) : Except String (Option String) :=
  match h.named? name with
  | none => .ok none
  | some (found, value) =>
    match Header.text? value with
    | some text => .ok (some text)
    | none => .error ("header '" ++ found ++ "' contains non-ASCII characters")

def count (h : Headers) : Nat := (h.entries.flatMap Prod.snd).length

def shown (h : Headers) : String :=
  "\x7b" ++ ", ".intercalate (h.entries.flatMap fun (name, values) =>
    values.map fun value => "\"" ++ name ++ "\": " ++ Header.shown value) ++ "\x7d"

end Headers
end RequestBinding
