import RequestBinding.Text.Utf8

/-! Addresses of requests. -/

namespace RequestBinding

/-- The address of a request, without its fragment. -/
structure Address where
  scheme : Option String
  authority : Option String
  rawPath : String
  query : Option String
deriving DecidableEq, Repr

namespace Address

def root : Address := ⟨none, none, "/", none⟩

def isPathChar (c : Char) : Bool :=
  decide (0x21 ≤ c.toNat) && c != '#' && c != '<' && c != '>' && c != '?' && c.toNat != 0x60

def isQueryChar (c : Char) : Bool :=
  decide (0x21 ≤ c.toNat) && c != '"' && c != '#' && c != '<' && c != '>'

def isAuthorityChar (c : Char) : Bool :=
  c.isAlphanum || "-._~!$&'()*+,;=:@[]%".toList.contains c

def isSchemeChar (c : Char) : Bool := c.isAlphanum || c == '+' || c == '-' || c == '.'

/-- Path and query, up to a fragment. -/
def readTarget (scheme authority : Option String) (text : List Char) : Option Address :=
  let kept := text.takeWhile (· != '#')
  let path := kept.takeWhile (· != '?')
  let query := match kept.dropWhile (· != '?') with
    | _ :: rest => some rest
    | [] => none
  if path.all isPathChar ∧ (query.getD []).all isQueryChar then
    some ⟨scheme, authority, String.ofList path, query.map String.ofList⟩
  else none

/-- An authority, which ends before a path, a query or a fragment, and what follows. -/
def readAuthority (text : List Char) : Option (String × List Char) :=
  let ends (c : Char) : Bool := c == '/' || c == '?' || c == '#'
  let authority := text.takeWhile fun c => !ends c
  if authority ≠ [] ∧ authority.all isAuthorityChar then
    some (String.ofList authority, text.dropWhile fun c => !ends c)
  else none

/-- Names of schemes that are known in any case. -/
def schemeText (name : List Char) : String :=
  let lower := String.ofList (name.map Char.toLower)
  if lower = "http" ∨ lower = "https" then lower else String.ofList name

/-- Reads a path from the root, an asterisk, a host, or an absolute address. -/
def read (text : List Char) : Option Address :=
  match text with
  | [] => none
  | ['*'] => some ⟨none, none, "*", none⟩
  | '/' :: _ => readTarget none none text
  | _ =>
    let name := text.takeWhile isSchemeChar
    match text.dropWhile isSchemeChar with
    | ':' :: '/' :: '/' :: rest =>
      if name = [] then none
      else (readAuthority rest).bind fun (authority, target) =>
        readTarget (some (schemeText name)) (some authority) target
    | _ =>
      match readAuthority text with
      | some (authority, []) => some ⟨none, some authority, "", none⟩
      | _ => none

def ofText? (text : String) : Option Address := read text.toList

/-- The path; that of an absolute address is never empty. -/
def path (a : Address) : String := if a.rawPath = "" ∧ a.scheme.isSome then "/" else a.rawPath

def text (a : Address) : String :=
  (match a.scheme with
    | some s => s ++ "://"
    | none => "")
  ++ a.authority.getD "" ++ a.path
  ++ match a.query with
    | some q => "?" ++ q
    | none => ""

end Address
end RequestBinding
