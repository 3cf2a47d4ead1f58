import RequestBinding.Request.Header

/-! Media types: what kind of content a body holds. -/

namespace RequestBinding

/-- A parameter of a media type, with the blanks around it. -/
structure MediaParameter where
  blanks : Nat
  name : String
  value : String
  quoted : Bool
  blanksAfter : Nat
deriving DecidableEq, Repr

/-- A media type. Of its subtype the last stretch behind a plus sign is a suffix. -/
structure MediaType where
  type : String
  subtype : String
  suffix : Option String
  parameters : List MediaParameter
  ending : String
deriving DecidableEq, Repr

namespace MediaType

def isTokenChar (c : Char) : Bool := decide (c.toNat < 128) && isTokenByte (UInt8.ofNat c.toNat)

def isQuotedChar (c : Char) : Bool := decide (31 < c.toNat) && decide (c.toNat ≠ 127)

def lower (text : List Char) : String := String.ofList (text.map Char.toLower)

/-- The value of a parameter, in lower case if it is that of a character set. -/
def valueText (name : String) (value : List Char) : String :=
  if name = "charset" then lower value else String.ofList value

/-- The value after an equals sign: whether it stands in quotes, its characters, blanks behind the quotes, and the
rest, which starts with a semicolon unless it is empty. A quote closes a value that is not empty. -/
def readValue : List Char → Option (Bool × List Char × Nat × List Char)
  | '"' :: first :: text =>
    if !isQuotedChar first then none
    else
      let more := text.takeWhile fun c => isQuotedChar c && c != '"'
      match text.dropWhile fun c => isQuotedChar c && c != '"' with
      | '"' :: rest =>
        let blanks := (rest.takeWhile (· == ' ')).length
        let after := rest.drop blanks
        if after = [] ∨ after.head? = some ';' then some (true, first :: more, blanks, after) else none
      | _ => none
  | text =>
    let value := text.takeWhile isTokenChar
    let rest := text.dropWhile isTokenChar
    if rest = [] then some (false, value, 0, [])
    else if value ≠ [] ∧ rest.head? = some ';' then some (false, value, 0, rest)
    else none

/-- Parameters after a semicolon, and what stands at the end without being a parameter. Each takes some of the
fuel. -/
def readParameters : Nat → List Char → Option (List MediaParameter × String)
  | 0, _ => none
  | fuel + 1, text =>
    let blanks := (text.takeWhile (· == ' ')).length
    let start := text.drop blanks
    if start = [] then some ([], String.ofList (';' :: text))
    else
      let name := start.takeWhile isTokenChar
      match start.dropWhile isTokenChar with
      | '=' :: more =>
        if name = [] then none
        else (readValue more).bind fun (quoted, value, blanksAfter, rest) =>
          let parameter : MediaParameter := ⟨blanks, lower name, valueText (lower name) value, quoted, blanksAfter⟩
          match rest with
          | [] => some ([parameter], "")
          | _ :: following =>
            (readParameters fuel following).map fun (others, ending) => (parameter :: others, ending)
      | _ => none

/-- A subtype cut at its last plus sign, one at its start apart. -/
def cutSuffix (text : List Char) : List Char × Option (List Char) :=
  let behind := (text.reverse.takeWhile (· != '+')).reverse
  if behind.length + 1 < text.length then (text.take (text.length - behind.length - 1), some behind) else (text, none)

/-- Reads a media type. Nothing but its grammar is checked: the type may be any token. -/
def read (text : List Char) : Option MediaType :=
  let type := text.takeWhile isTokenChar
  match text.dropWhile isTokenChar with
  | '/' :: more =>
    if type = [] then none
    else
      let subtype := more.takeWhile isTokenChar
      let (plain, suffix) := cutSuffix subtype
      match more.dropWhile isTokenChar with
      | [] => some ⟨lower type, lower plain, suffix.map lower, [], ""⟩
      | ';' :: rest =>
        if subtype = [] then none
        else (readParameters (rest.length + 1) rest).map fun (parameters, ending) =>
          ⟨lower type, lower plain, suffix.map lower, parameters, if parameters = [] then "" else ending⟩
      | _ => none
  | _ => none

def ofText? (text : String) : Option MediaType := read text.toList

def writeParameter (p : MediaParameter) : String :=
  let quote := if p.quoted then "\"" else ""
  ";" ++ String.ofList (List.replicate p.blanks ' ') ++ p.name ++ "=" ++ quote ++ p.value ++ quote
    ++ String.ofList (List.replicate p.blanksAfter ' ')

/-- Type and subtype without parameters. -/
def essence (m : MediaType) : String :=
  m.type ++ "/" ++ m.subtype ++ match m.suffix with
    | some s => "+" ++ s
    | none => ""

/-- The media type as it was written, but in lower case where case does not count. -/
def text (m : MediaType) : String :=
  m.essence ++ String.join (m.parameters.map writeParameter) ++ m.ending

def parameter? (m : MediaType) (name : String) : Option String :=
  (m.parameters.find? fun p => p.name == name).map MediaParameter.value

/-- JSON, or a format that is written in JSON. -/
def isJson (m : MediaType) : Bool :=
  m.type == "application" && (m.subtype == "json" || m.suffix == some "json")

def isUrlEncoded (m : MediaType) : Bool := m.essence == "application/x-www-form-urlencoded"

def isMultipart (m : MediaType) : Bool := m.type == "multipart" && m.subtype == "form-data"

end MediaType
end RequestBinding
