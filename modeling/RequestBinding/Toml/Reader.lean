import RequestBinding.Toml.Scalar
import RequestBinding.Toml.Table

/-! TOML documents, read as JSON. -/

namespace RequestBinding.Toml

/-- What follows white space, newlines and comments. Each line takes some of the fuel. -/
def skipLines : Nat → List Char → List Char
  | 0, text => text
  | fuel + 1, text =>
    let rest := skipComment (text.dropWhile isBlank)
    match afterNewline rest with
    | some more => skipLines fuel more
    | none => rest

def skipSpace (text : List Char) : List Char := skipLines (text.length + 1) text

mutual

/-- A value, and what follows it. Values may nest `depth` deep; each takes some of the fuel. -/
def value : Nat → Nat → List Char → Option (Json × List Char)
  | 0, _, _ => none
  | fuel + 1, depth, text =>
    match text with
    | '"' :: _ | '\'' :: _ => (string text).map fun (s, rest) => (.string s, rest)
    | '[' :: rest =>
      if depth = 0 then none
      else (items fuel (depth - 1) (skipSpace rest)).map fun (values, rest) => (.array values, rest)
    | '{' :: rest =>
      if depth = 0 then none
      else match rest.dropWhile isBlank with
        | '}' :: after => some (.object [], after)
        | start => (pairs fuel (depth - 1) [] start).map fun (entries, rest) =>
          ((Item.table .dotted entries).toJson, rest)
    | _ => scalar text

/-- Items up to the bracket that closes their array. -/
def items : Nat → Nat → List Char → Option (List Json × List Char)
  | 0, _, _ => none
  | fuel + 1, depth, text =>
    match text with
    | ']' :: rest => some ([], rest)
    | _ =>
      (value fuel depth text).bind fun (first, rest) =>
        match skipSpace rest with
        | ',' :: more => (items fuel depth (skipSpace more)).map fun (others, rest) => (first :: others, rest)
        | ']' :: after => some ([first], after)
        | _ => none

/-- Pairs of keys and values up to the brace that closes their table, behind those read before. -/
def pairs : Nat → Nat → List (String × Item) → List Char → Option (List (String × Item) × List Char)
  | 0, _, _, _ => none
  | fuel + 1, depth, entries, text =>
    (keys text).bind fun (names, rest) =>
      (expect '=' rest).bind fun rest =>
        (value fuel depth (rest.dropWhile isBlank)).bind fun (v, rest) =>
          (assign names (.value v) .header entries).bind fun entries =>
            match rest.dropWhile isBlank with
            | ',' :: more => pairs fuel depth entries more
            | '}' :: after => some (entries, after)
            | _ => none

end

inductive Line
  | pair (keys : List String) (value : Json)
  | table (path : List String)
  | element (path : List String)

/-- A line that is not empty, and what follows it. -/
def line (text : List Char) : Option (Line × List Char) :=
  match text with
  | '[' :: '[' :: rest => do
    let (path, rest) ← keys rest
    let rest ← expect ']' (← expect ']' rest)
    (endLine rest).map fun rest => (.element path, rest)
  | '[' :: rest => do
    let (path, rest) ← keys rest
    let rest ← expect ']' rest
    (endLine rest).map fun rest => (.table path, rest)
  | _ => do
    let (names, rest) ← keys text
    let rest ← expect '=' rest
    let (v, rest) ← value (2 * rest.length + 2) (nestingLimit - 1) (rest.dropWhile isBlank)
    (endLine rest).map fun rest => (.pair names v, rest)

/-- Adds a line to the tables so far, of which the path names the last that was opened. -/
def Line.addTo (root : List (String × Item)) (path : List String) : Line → Option (List (String × Item) × List String)
  | pair keys v => (assignUnder path keys (.value v) root).map fun root => (root, path)
  | table opened => (openTable opened root).map fun root => (root, opened)
  | element opened => (openElement opened root).map fun root => (root, opened)

def lines : Nat → List (String × Item) → List String → List Char → Option (List (String × Item))
  | 0, _, _, _ => none
  | fuel + 1, root, path, text =>
    match skipSpace text with
    | [] => some root
    | start => (line start).bind fun (found, rest) =>
      (found.addTo root path).bind fun (root, path) => lines fuel root path rest

/-- Reads a document. A byte order mark at its start does not count. -/
def read (text : String) : Option Json :=
  let start := match text.toList with
    | '\uFEFF' :: rest => rest
    | start => start
  (lines (start.length + 1) [] [] start).map fun root => (Item.table .header root).toJson

end RequestBinding.Toml
