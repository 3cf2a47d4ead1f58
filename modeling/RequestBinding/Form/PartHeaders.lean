import RequestBinding.Request.MediaType

/-! The headers of a part of a form. -/

namespace RequestBinding.PartHeaders

def isValueByte (b : UInt8) : Bool := b == 0x09 || (decide (0x20 ≤ b) && b != 0x7F)

def isBlank (b : UInt8) : Bool := b == 0x20 || b == 0x09

def afterLine : List UInt8 → Option (List UInt8)
  | 0x0A :: rest => some rest
  | 0x0D :: 0x0A :: rest => some rest
  | _ => none

def trimEnd (value : List UInt8) : List UInt8 := (value.reverse.dropWhile isBlank).reverse

/-- Reads headers up to an empty line, `room` of them at most; nothing where one is malformed or too many. Of
headers of one name the last stays. -/
def readOnto (found : List (String × List UInt8)) : Nat → List UInt8 → Option (List (String × List UInt8))
  | 0, text => if (afterLine text).isSome then some found else none
  | room + 1, text =>
    if (afterLine text).isSome then some found
    else
      let name := text.takeWhile isTokenByte
      match text.dropWhile isTokenByte, Header.name? name with
      | 0x3A :: behind, some known =>
        let start := behind.dropWhile isBlank
        match afterLine (start.dropWhile isValueByte) with
        | some rest => readOnto (Entries.put known (trimEnd (start.takeWhile isValueByte)) found) room rest
        | none => none
      | _, _ => none

def limit : Nat := 32

def read (text : List UInt8) : Option (List (String × List UInt8)) := readOnto [] limit text

/-- White space in a disposition. -/
def isSpace (b : UInt8) : Bool := b == 0x20 || b == 0x09 || b == 0x0A || b == 0x0C || b == 0x0D

/-- A quoted text up to the first quote that no backslash precedes, the escapes of quotes resolved. -/
def readQuoted (previous : UInt8) (found : List UInt8) : List UInt8 → Option (List UInt8)
  | [] => none
  | b :: rest =>
    if b = 0x22 then
      if previous = 0x5C then readQuoted b (b :: found.drop 1) rest else some found.reverse
    else readQuoted b (b :: found) rest

def attributeValue (text : List UInt8) : Option (List UInt8) :=
  match text.dropWhile isSpace with
  | 0x3D :: rest =>
    match rest.dropWhile isSpace with
    | 0x22 :: quoted => readQuoted 0 [] quoted
    | bare => some (bare.takeWhile fun b => b != 0x3B && b != 0x20)
  | _ => none

/-- What follows the first occurrence of a name at the start or behind white space or a semicolon. Behind an
occurrence that does not count, the search starts anew. -/
def afterName (name : List UInt8) (previous : Option UInt8) : Nat → List UInt8 → Option (List UInt8)
  | 0, _ => none
  | _ + 1, [] => none
  | fuel + 1, b :: rest =>
    if name.isPrefixOf (b :: rest) then
      let behind := (b :: rest).drop name.length
      match previous with
      | none => some behind
      | some p => if isSpace p || p == 0x3B then some behind else afterName name none fuel behind
    else afterName name (some b) fuel rest

def attribute? (name : String) (disposition : List UInt8) : Option String :=
  ((afterName (Utf8.encode name) none (disposition.length + 1) disposition).bind attributeValue).bind Utf8.decode?

end RequestBinding.PartHeaders
