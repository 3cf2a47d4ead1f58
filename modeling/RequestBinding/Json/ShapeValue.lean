import RequestBinding.Json.ShapeText

/-! Reading a JSON value as a value of some shape. -/

namespace RequestBinding.Json

variable {σ : Type}

def Shape.ofBool {α : Type} (self : Record σ σ) (b : Bool) : Shape σ α → Except Mismatch α
  | .bool => .ok b
  | .json => .ok (.bool b)
  | shape => .error (.wrongType (.bool b) (shape.expected self))

def Shape.ofString {α : Type} (self : Record σ σ) (s : String) : Shape σ α → Except Mismatch α
  | .string => .ok s
  | .json => .ok (.string s)
  | .choice variants => variantOf variants s
  | shape => .error (.wrongType (.string s) (shape.expected self))

def Shape.ofNull {α : Type} (self : Record σ σ) : Shape σ α → Except Mismatch α
  | .nothing => .ok ()
  | .json => .ok .null
  | shape => .error (.wrongType .null (shape.expected self))

def isNull : Json → Bool
  | .null => true
  | _ => false

mutual

/-- A JSON value as the value of a shape. -/
def readAs (self : Record σ σ) : Json → {α : Type} → Shape σ α → Except Mismatch α
  | .null, _, shape => shape.ofNull self
  | .bool b, _, shape => shape.ofBool self b
  | .number n, _, .json => .ok (.number n)
  | .number n, _, shape => shape.ofNumber self n
  | .string s, _, shape => shape.ofString self s
  | .array items, _, .json => .ok (.array items)
  | .array items, _, .list item => itemsAs self items item
  | .array items, _, .record r =>
    r.build fun fields => positionsAs self r.expectedLength items.length 0 items fields
  | .array items, _, .itself =>
    self.build fun fields => positionsAs self self.expectedLength items.length 0 items fields
  | .array _, _, shape => .error (.wrongType .sequence (shape.expected self))
  | .object members, _, .json => .ok (.object members)
  | .object members, _, .dictionary value => entriesAs self members value []
  | .object members, _, .record r => r.build fun fields => membersAs self r.strict members fields
  | .object members, _, .itself => self.build fun fields => membersAs self self.strict members fields
  | .object [(name, value)], _, .choice variants => do
    let variant ← variantOf variants name
    readAs self value .nothing
    .ok variant
  | .object _, _, .choice _ => .error (.wrongValue .map "map with a single key")
  | .object _, _, shape => .error (.wrongType .map (shape.expected self))

def itemsAs (self : Record σ σ) : List Json → {α : Type} → Shape σ α → Except Mismatch (List α)
  | [], _, _ => .ok []
  | item :: rest, _, shape => do
    let value ← readAs self item shape
    let values ← itemsAs self rest shape
    .ok (value :: values)

/-- Items as the fields of a record, in order. -/
def positionsAs (self : Record σ σ) (expected : String) (length index : Nat) :
    List Json → {β : Type} → Fields σ β → Except Mismatch β
  | [], _, fields => fields.finishArray expected index
  | _ :: _, _, .nil => .error (.wrongLength length "fewer elements in array")
  | item :: rest, _, .field _ shape _ _ more => do
    let value ← readAs self item shape
    let values ← positionsAs self expected length (index + 1) rest more
    .ok (value, values)
  | item :: rest, _, .nullable _ shape _ _ more => do
    let value ← if item.isNull then .ok none else (readAs self item shape).map some
    let values ← positionsAs self expected length (index + 1) rest more
    .ok (value, values)

/-- Members as the entries of a dictionary, after those read before. -/
def entriesAs (self : Record σ σ) :
    List (String × Json) → {α : Type} → Shape σ α → List (String × α) → Except Mismatch (List (String × α))
  | [], _, _, done => .ok done
  | (name, member) :: rest, _, shape, done => do
    let value ← readAs self member shape
    entriesAs self rest shape (Entries.put name value done)

def membersAs (self : Record σ σ) (strict : Bool) :
    List (String × Json) → {β : Type} → Fields σ β → Except Mismatch β
  | [], _, fields => fields.finish
  | (name, member) :: rest, _, fields =>
    match fields.give (fun shape => readAs self member shape) member.isNull name with
    | .error mismatch => .error mismatch
    | .ok (.taken fields) => membersAs self strict rest fields
    | .ok .twice => .error (.duplicateField name)
    | .ok .unknown =>
      if strict then .error (.unknownField name fields.names) else membersAs self strict rest fields

end

/-- A record without fields, for shapes that refer to none. -/
def Record.trivial : Record Unit Unit := .mk "Unit" false .nil id

def as {α : Type} (shape : Shape Unit α) (value : Json) : Except Mismatch α := readAs Record.trivial value shape

def Shape.readText {α : Type} (shape : Shape Unit α) (text : List UInt8) : Except String α :=
  Document.readWith (fun root => root.read Record.trivial nestingLimit shape) text

end RequestBinding.Json
