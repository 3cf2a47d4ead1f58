import RequestBinding.Dotenv.Line
import RequestBinding.Text.Classes

/-! One line of a file of variables: a name, an equals sign, and a value that may refer to other variables. -/

namespace RequestBinding.Dotenv

/-- What a value so far leaves open: nothing, but double quotes where `quoted` holds; an escape; single quotes; the
name behind a dollar sign, bare or in braces; or the end of the value, before which only blanks and a comment may
stand. -/
inductive Pending
  | nothing (quoted : Bool)
  | escape (quoted : Bool)
  | literal
  | name (quoted : Bool) (found : List Char)
  | braced (quoted : Bool) (found : List Char)
  | ending
deriving DecidableEq, Repr

def escaped? (c : Char) : Option Char :=
  if c = '\\' ∨ c = '\'' ∨ c = '"' ∨ c = '$' ∨ c = ' ' then some c else if c = 'n' then some '\n' else none

/-- What is open behind one more character, and what the character adds to the value. -/
def Pending.next (lookup : String → String) (c : Char) : Pending → Option (Pending × List Char)
  | nothing true =>
    some (if c = '$' then (name true [], []) else if c = '"' then (nothing false, [])
      else if c = '\\' then (escape true, []) else (nothing true, [c]))
  | nothing false =>
    some (if c = '$' then (name false [], []) else if c = '"' then (nothing true, [])
      else if c = '\\' then (escape false, []) else if c = '\'' then (literal, [])
      else if c = ' ' ∨ c = '\t' then (ending, []) else (nothing false, [c]))
  | escape quoted => (escaped? c).map fun x => (nothing quoted, [x])
  | literal => some (if c = '\'' then (nothing false, []) else (literal, [c]))
  | name quoted found =>
    let value := (lookup (String.ofList found)).toList
    some (if Text.isAlphanumeric c then (name quoted (found ++ [c]), [])
      else if c = '{' ∧ found = [] then (braced quoted [], [])
      else if c = '$' then (name quoted [], value)
      else (nothing quoted, value ++ [c]))
  | braced quoted found =>
    some (if c = '}' then (nothing quoted, (lookup (String.ofList found)).toList)
      else (braced quoted (found ++ [c]), []))
  | ending => if c = ' ' ∨ c = '\t' then some (ending, []) else none

/-- What is added to the value at its end, unless something must still be closed. -/
def Pending.finish? (lookup : String → String) : Pending → Option (List Char)
  | nothing false | escape false | ending => some []
  | name false found => some (lookup (String.ofList found)).toList
  | nothing true | escape true | name true _ | literal | braced _ _ => none

/-- The rest of a value whose characters are counted from `index`, behind what was found of it. The index of a
fault is that of a character; a value that is not closed has its fault at the `last` index. -/
def valueFrom (lookup : String → String) (last : Nat) (pending : Pending) (found : List Char) (index : Nat) :
    List Char → Except Nat (List Char)
  | [] =>
    match pending.finish? lookup with
    | some more => .ok (found ++ more)
    | none => .error last
  | c :: rest =>
    if pending = .ending ∧ c = '#' then .ok found
    else match pending.next lookup c with
      | some (pending, more) => valueFrom lookup last pending (found ++ more) (index + 1) rest
      | none => .error index

def readValue (lookup : String → String) (text : List Char) : Except Fault String :=
  match valueFrom lookup (byteLength text - 1) (.nothing false) [] 0 text with
  | .ok value => .ok (String.ofList value)
  | .error index => .error (.line (String.ofList text) index)

/-- A name at the head of a text, and what follows it and white space; or the text itself. -/
def readName (text : List Char) : Except (List Char) (String × List Char) :=
  let isPart (c : Char) : Bool := c.isAlphanum || c == '_' || c == '.'
  match text with
  | c :: _ =>
    if c.isAlpha || c == '_' then
      .ok (String.ofList (text.takeWhile isPart), (text.dropWhile isPart).dropWhile Text.isBlank)
    else .error text
  | [] => .error []

def readEquals : List Char → Except (List Char) (List Char)
  | '=' :: rest => .ok (rest.dropWhile Text.isBlank)
  | text => .error text

/-- A name, behind the word that exports it or not, and what follows its equals sign; or the text from the first
character that does not fit. -/
def readTarget (text : List Char) : Except (List Char) (String × List Char) := do
  let (name, rest) ← readName text
  match readEquals rest with
  | .ok value => .ok (name, value)
  | .error left =>
    if name = "export" then
      let (name, rest) ← readName rest
      .ok (name, ← readEquals rest)
    else .error left

/-- Nothing but a comment stands in a text. -/
def isVoid (text : List Char) : Bool := text.isEmpty || text.head? == some '#'

/-- Reads a line: the name and the value that it assigns, if it is not empty. -/
def readLine (lookup : String → String) (line : String) : Except Fault (Option (String × String)) :=
  let text := Text.trimEnd line.toList
  let start := text.dropWhile Text.isBlank
  if isVoid start then .ok none
  else match readTarget start with
    | .error left => .error (.line line (byteLength text - byteLength left))
    | .ok (name, value) =>
      if isVoid value then .ok (some (name, ""))
      else (readValue lookup value).map fun value => some (name, value)

end RequestBinding.Dotenv
