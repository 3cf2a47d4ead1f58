/-! Strings and keys of TOML. Each reader takes the rest of a text and gives back what it read and what follows. -/

namespace RequestBinding.Toml

/-- White space within a line. -/
def isBlank (c : Char) : Bool := c == ' ' || c == '\t'

/-- A character that may stand in a comment, and in a string unless it has a meaning there. -/
def isPlain (c : Char) : Bool := c == '\t' || (decide (0x20 ≤ c.toNat) && c.toNat != 0x7F)

def afterNewline : List Char → Option (List Char)
  | '\n' :: rest => some rest
  | '\r' :: '\n' :: rest => some rest
  | _ => none

def skipComment : List Char → List Char
  | '#' :: rest => rest.dropWhile isPlain
  | text => text

/-- What follows a line that ends here, perhaps with a comment. -/
def endLine (text : List Char) : Option (List Char) :=
  match skipComment (text.dropWhile isBlank) with
  | [] => some []
  | rest => afterNewline rest

def escaped? (c : Char) : Option Char :=
  if c = 'b' then some (Char.ofNat 8)
  else if c = 't' then some '\t'
  else if c = 'n' then some '\n'
  else if c = 'f' then some (Char.ofNat 12)
  else if c = 'r' then some '\r'
  else if c = '"' ∨ c = '\\' then some c
  else none

def hexDigit? (c : Char) : Option Nat :=
  if c.isDigit then some (c.toNat - 48)
  else if 'a' ≤ c ∧ c ≤ 'f' then some (c.toNat - 87)
  else if 'A' ≤ c ∧ c ≤ 'F' then some (c.toNat - 55)
  else none

def hexNumber (value : Nat) : List Char → Option Nat
  | [] => some value
  | c :: rest => (hexDigit? c).bind fun d => hexNumber (value * 16 + d) rest

/-- The character of a code point, unless it is a surrogate or beyond the last one. -/
def codePoint? (digits : List Char) : Option Char :=
  (hexNumber 0 digits).bind fun n => if n.isValidChar then some (Char.ofNat n) else none

/-- A string in double quotes, behind the first of them. -/
def basicString (found : List Char) : List Char → Option (String × List Char)
  | [] => none
  | '"' :: rest => some (String.ofList found.reverse, rest)
  | '\\' :: 'u' :: a :: b :: c :: d :: rest =>
    match codePoint? [a, b, c, d] with
    | some x => basicString (x :: found) rest
    | none => none
  | '\\' :: 'U' :: a :: b :: c :: d :: e :: f :: g :: h :: rest =>
    match codePoint? [a, b, c, d, e, f, g, h] with
    | some x => basicString (x :: found) rest
    | none => none
  | '\\' :: c :: rest =>
    match escaped? c with
    | some x => basicString (x :: found) rest
    | none => none
  | c :: rest => if isPlain c && c != '\\' then basicString (c :: found) rest else none

def literalString (text : List Char) : Option (String × List Char) :=
  match text.dropWhile fun c => isPlain c && c != '\'' with
  | '\'' :: rest => some (String.ofList (text.takeWhile fun c => isPlain c && c != '\''), rest)
  | _ => none

/-- A line ends behind blanks. -/
def endsLine (text : List Char) : Bool := (afterNewline (text.dropWhile isBlank)).isSome

/-- A string of several lines in double quotes, behind what opens it. Behind a backslash at the end of a line all
white space is passed over. Up to two quotes may stand before those that close the string. -/
def basicLines (skipping : Bool) (found : List Char) : List Char → Option (String × List Char)
  | [] => none
  | '"' :: '"' :: '"' :: '"' :: '"' :: rest => some (String.ofList ('"' :: '"' :: found).reverse, rest)
  | '"' :: '"' :: '"' :: '"' :: rest => some (String.ofList ('"' :: found).reverse, rest)
  | '"' :: '"' :: '"' :: rest => some (String.ofList found.reverse, rest)
  | '\\' :: 'u' :: a :: b :: c :: d :: rest =>
    match codePoint? [a, b, c, d] with
    | some x => basicLines false (x :: found) rest
    | none => none
  | '\\' :: 'U' :: a :: b :: c :: d :: e :: f :: g :: h :: rest =>
    match codePoint? [a, b, c, d, e, f, g, h] with
    | some x => basicLines false (x :: found) rest
    | none => none
  | '\\' :: c :: rest =>
    match escaped? c with
    | some x => basicLines false (x :: found) rest
    | none => if endsLine (c :: rest) then basicLines true found (c :: rest) else none
  | '\r' :: '\n' :: rest => basicLines skipping (if skipping then found else '\n' :: found) rest
  | c :: rest =>
    if c = '\n' ∨ isBlank c then basicLines skipping (if skipping then found else c :: found) rest
    else if isPlain c && c != '\\' then basicLines false (c :: found) rest
    else none

def literalLines (found : List Char) : List Char → Option (String × List Char)
  | [] => none
  | '\'' :: '\'' :: '\'' :: '\'' :: '\'' :: rest => some (String.ofList ('\'' :: '\'' :: found).reverse, rest)
  | '\'' :: '\'' :: '\'' :: '\'' :: rest => some (String.ofList ('\'' :: found).reverse, rest)
  | '\'' :: '\'' :: '\'' :: rest => some (String.ofList found.reverse, rest)
  | '\r' :: '\n' :: rest => literalLines ('\n' :: found) rest
  | c :: rest => if c = '\n' ∨ isPlain c then literalLines (c :: found) rest else none

/-- A newline right behind what opens a string of several lines does not count. -/
def skipFirstNewline (text : List Char) : List Char := (afterNewline text).getD text

def string : List Char → Option (String × List Char)
  | '"' :: '"' :: '"' :: rest => basicLines false [] (skipFirstNewline rest)
  | '"' :: rest => basicString [] rest
  | '\'' :: '\'' :: '\'' :: rest => literalLines [] (skipFirstNewline rest)
  | '\'' :: rest => literalString rest
  | _ => none

def isBareKey (c : Char) : Bool := c.isAlphanum || c == '_' || c == '-'

def simpleKey : List Char → Option (String × List Char)
  | '"' :: rest => basicString [] rest
  | '\'' :: rest => literalString rest
  | text =>
    let bare := text.takeWhile isBareKey
    if bare = [] then none else some (String.ofList bare, text.dropWhile isBareKey)

/-- Keys joined by dots, with blanks around each. Each takes some of the fuel. -/
def keysWithin : Nat → List Char → Option (List String × List Char)
  | 0, _ => none
  | fuel + 1, text =>
    (simpleKey (text.dropWhile isBlank)).bind fun (key, rest) =>
      match rest.dropWhile isBlank with
      | '.' :: more => (keysWithin fuel more).map fun (keys, rest) => (key :: keys, rest)
      | rest => some ([key], rest)

/-- This deep may keys and values nest, and no deeper. -/
def nestingLimit : Nat := 80

def keys (text : List Char) : Option (List String × List Char) := keysWithin (nestingLimit - 1) text

end RequestBinding.Toml
