import RequestBinding.Json.Shape

/-! Reading text as a value of some shape. Of several faults the first in the text is reported. -/

namespace RequestBinding.Json

variable {σ : Type}

def Outline.isNull : Outline → Bool
  | .null _ => true
  | _ => false

/-- The end of an array whose items are all read: whatever follows but a comma is one character too many. -/
def Finish.readFull : Finish → Except Fault Unit
  | .closed _ => .ok ()
  | .broken b =>
    match b.reading.cause with
    | .breach .expectedCommaOrBracket => .error (Breach.trailingCharacters.at b.reading.offset)
    | _ => .error b.reading

/-- Counts one level of nesting where a container starts. -/
def nest (depth start : Nat) : Except Fault Nat :=
  if depth = 0 then .error (Breach.recursionLimit.at (start + 1)) else .ok (depth - 1)

/-- Something that is no variant of a choice, at its first byte. -/
def noVariant {α : Type} (start : Nat) : Except Fault α := .error (Breach.expectedValue.at (start + 1))

def Shape.ofNullText {α : Type} (self : Record σ σ) (start : Nat) : Shape σ α → Except Fault α
  | .nothing => .ok ()
  | .json => .ok .null
  | .choice _ => noVariant start
  | shape => .error ((Outline.null start).unfit (shape.expected self))

def Shape.ofBoolText {α : Type} (self : Record σ σ) (b : Bool) (start : Nat) : Shape σ α → Except Fault α
  | .bool => .ok b
  | .json => .ok (.bool b)
  | .choice _ => noVariant start
  | shape => .error ((Outline.bool b start).unfit (shape.expected self))

def Shape.ofNumberText {α : Type} (self : Record σ σ) (start : Nat) (literal : NumberLiteral) (stop : Nat) :
    Shape σ α → Except Fault α
  | .json => (literal.value stop).map .number
  | .choice _ => noVariant start
  | shape => do
    let n ← literal.value stop
    (shape.ofNumber self n).mapError (·.at stop)

def Shape.ofStringText {α : Type} (self : Record σ σ) (start : Place) : Shape σ α → Except Fault α
  | .string => (readString start).map Prod.fst
  | .json => (readString start).map fun (s, _) => .string s
  | .choice variants => do
    let (s, stop) ← readString start
    (variantOf variants s).mapError (·.at stop)
  | shape => do
    let (s, stop) ← readString start
    .error ((Mismatch.wrongType (.string s) (shape.expected self)).at stop)

/-- The end of an object that stands for a variant, after its only member. -/
def variantEnd (more : List (Key × Outline)) (finish : Finish) : Except Fault Unit :=
  match more, finish with
  | (key, _) :: _, _ => .error (Breach.expectedValue.at key.before)
  | [], .closed _ => .ok ()
  | [], .broken b => .error b.choosing

mutual

/-- The value of an outline as one of a shape, nested to some depth at most. -/
def Outline.read (self : Record σ σ) (depth : Nat) : Outline → {α : Type} → Shape σ α → Except Fault α
  | .null start, _, shape => shape.ofNullText self start
  | .bool b start, _, shape => shape.ofBoolText self b start
  | .number start literal stop, _, shape => shape.ofNumberText self start literal stop
  | .string start _, _, shape => shape.ofStringText self start
  | .array start items finish, _, .json => Outline.value depth (.array start items finish)
  | .array start items finish, _, .list item => do
    let values ← readItems self (← nest depth start) items item
    finish.read
    .ok values
  | .array start items finish, _, .record r => do
    let depth ← nest depth start
    r.build fun fields => readPositions self depth r.expectedLength finish 0 items fields
  | .array start items finish, _, .itself => do
    let depth ← nest depth start
    self.build fun fields => readPositions self depth self.expectedLength finish 0 items fields
  | .array start _ _, _, .choice _ => noVariant start
  | .array start items finish, _, shape => .error ((Outline.array start items finish).unfit (shape.expected self))
  | .object start members finish, _, .json => Outline.value depth (.object start members finish)
  | .object start members finish, _, .dictionary value => do
    let entries ← readEntries self (← nest depth start) members value []
    finish.read
    .ok entries
  | .object start members finish, _, .record r => do
    let depth ← nest depth start
    r.build fun fields => readMembers self depth r.strict finish members fields
  | .object start members finish, _, .itself => do
    let depth ← nest depth start
    self.build fun fields => readMembers self depth self.strict finish members fields
  | .object start [] finish, _, .choice _ => do
    let _ ← nest depth start
    match finish with
    | .closed stop => .error (Breach.expectedValue.at stop)
    | .broken b => .error b.choosing
  | .object start ((key, value) :: more) finish, _, .choice variants => do
    let depth ← nest depth start
    let (name, stop) ← readString key.start
    let variant ← (variantOf variants name).mapError (·.at stop)
    value.read self depth .nothing
    variantEnd more finish
    .ok variant
  | .object start members finish, _, shape =>
    .error ((Outline.object start members finish).unfit (shape.expected self))
  | .broken b, _, .choice _ => .error b.choosing
  | .broken b, _, _ => .error b.reading

def readItems (self : Record σ σ) (depth : Nat) :
    List (Nat × Outline) → {α : Type} → Shape σ α → Except Fault (List α)
  | [], _, _ => .ok []
  | (_, item) :: rest, _, shape => do
    let value ← item.read self depth shape
    let values ← readItems self depth rest shape
    .ok (value :: values)

/-- The values of fields that stand in an array, in order. -/
def readPositions (self : Record σ σ) (depth : Nat) (expected : String) (finish : Finish) (index : Nat) :
    List (Nat × Outline) → {β : Type} → Fields σ β → Except Fault β
  | [], _, .nil => finish.readFull
  | [], _, fields =>
    match finish with
    | .closed stop => (fields.finishArray expected index).mapError (·.at stop)
    | .broken b => .error b.reading
  | (peeked, _) :: _, _, .nil => .error (Breach.trailingCharacters.at peeked)
  | (_, item) :: rest, _, .field _ shape _ _ more => do
    let value ← item.read self depth shape
    let values ← readPositions self depth expected finish (index + 1) rest more
    .ok (value, values)
  | (_, item) :: rest, _, .nullable _ shape _ _ more => do
    let value ← if item.isNull then .ok none else (item.read self depth shape).map some
    let values ← readPositions self depth expected finish (index + 1) rest more
    .ok (value, values)

/-- The entries of a dictionary after those read before; a repeated name keeps its place and takes the later
value. -/
def readEntries (self : Record σ σ) (depth : Nat) :
    List (Key × Outline) → {α : Type} → Shape σ α → List (String × α) → Except Fault (List (String × α))
  | [], _, _, done => .ok done
  | (key, member) :: rest, _, shape, done => do
    let (name, _) ← readString key.start
    let value ← member.read self depth shape
    readEntries self depth rest shape (Entries.put name value done)

/-- Gives the members of an object to the fields of a record, up to its end. -/
def readMembers (self : Record σ σ) (depth : Nat) (strict : Bool) (finish : Finish) :
    List (Key × Outline) → {β : Type} → Fields σ β → Except Fault β
  | [], _, fields =>
    match finish with
    | .closed stop => fields.finish.mapError (·.at stop)
    | .broken b => .error b.reading
  | (key, member) :: rest, _, fields => do
    let (name, _) ← readString key.start
    match fields.give (fun shape => member.read self depth shape) member.isNull name with
    | .error fault => .error fault
    | .ok (.taken fields) => readMembers self depth strict finish rest fields
    | .ok .twice => .error ((Mismatch.duplicateField name).at key.next)
    | .ok .unknown =>
      if strict then .error ((Mismatch.unknownField name fields.names).at key.next)
      else
        member.pass
        readMembers self depth strict finish rest fields

end

def Record.readText (r : Record σ σ) (text : List UInt8) : Except String σ :=
  Document.readWith (fun root => root.read r nestingLimit .itself) text

end RequestBinding.Json
