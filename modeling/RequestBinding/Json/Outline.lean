import RequestBinding.Entries
import RequestBinding.Json.Literal

/-! The layout of a JSON text, up to where it breaks off. Strings stay as written and faults stay in place, so
that a reader meets them in the order of the text. -/

namespace RequestBinding.Json

/-- Where a text breaks off: the fault to a reader that wants the value, to one that passes over it, and to one
that chooses a variant by it. -/
structure Break where
  reading : Fault
  passing : Fault
  choosing : Fault

/-- One breach for every kind of reader. -/
def Breach.break (b : Breach) (offset : Nat) : Break := ⟨b.at offset, b.at offset, b.at offset⟩

/-- A break behind a member. If the member chose a variant, only the end of the object may stand there. -/
def Break.behindMember (b : Break) (offset : Nat) : Break := { b with choosing := Breach.expectedValue.at offset }

/-- How an array or an object ends, and the offset after its last byte. -/
inductive Finish
  | closed (stop : Nat)
  | broken (b : Break)

/-- The name of a member: the place after its opening quote, the offset of the byte that led to it, and the
offset after the name, the white space behind it and an end of the object that stands in place of a colon. -/
structure Key where
  before : Nat
  start : Place
  next : Nat

/-- A value as it is laid out. An array has with each item the offset after the item's first byte. -/
inductive Outline
  | null (start : Nat)
  | bool (value : Bool) (start : Nat)
  | number (start : Nat) (literal : NumberLiteral) (stop : Nat)
  | string (start : Place) (passed : Except Fault Nat)
  | array (start : Nat) (items : List (Nat × Outline)) (finish : Finish)
  | object (start : Nat) (members : List (Key × Outline)) (finish : Finish)
  | broken (b : Break)

/-- The fault where something else was expected than what an outline shows; an array or an object is not read
for it. -/
def Outline.unfit (expected : String) : Outline → Fault
  | .null start => (Mismatch.wrongType .null expected).at (start + 4)
  | .bool b start => (Mismatch.wrongType (.bool b) expected).at (start + if b then 4 else 5)
  | .number _ literal stop =>
    match literal.value stop with
    | .ok n => (Mismatch.wrongType (.number n) expected).at stop
    | .error fault => fault
  | .string start _ =>
    match readString start with
    | .ok (s, stop) => (Mismatch.wrongType (.string s) expected).at stop
    | .error fault => fault
  | .array start _ _ => (Mismatch.wrongType .sequence expected).at start
  | .object start _ _ => (Mismatch.wrongType .map expected).at start
  | .broken b => b.reading

def scanWord (p : Place) : List UInt8 → Except Fault Place
  | [] => .ok p
  | expected :: more =>
    match p.rest with
    | [] => .error (Breach.endInValue.at p.offset)
    | b :: _ => if b = expected then scanWord (p.advance 1) more else .error (Breach.expectedIdent.at (p.offset + 1))

def wordAt (p : Place) (rest : List UInt8) (value : Nat → Outline) : Outline × Option Place :=
  match scanWord (p.advance 1) rest with
  | .ok after => (value p.offset, some after)
  | .error fault => (.broken ⟨fault, fault, Breach.expectedValue.at (p.offset + 1)⟩, none)

/-- A number that ends too early is an invalid one to a reader that passes over it. -/
def passingNumber (fault : Fault) : Fault :=
  match fault.cause with
  | .breach .endInValue => Breach.invalidNumber.at fault.offset
  | _ => fault

def numberAt (p : Place) : Outline × Option Place :=
  match scanNumber p with
  | .ok (literal, after) => (.number p.offset literal after.offset, some after)
  | .error fault => (.broken ⟨fault, passingNumber fault, Breach.expectedValue.at (p.offset + 1)⟩, none)

def stringAt (p : Place) : Outline × Option Place :=
  let start := p.advance 1
  match passString start.offset start.rest with
  | .ok after => (.string start (.ok after.offset), some after)
  | .error fault => (.string start (.error fault), none)

mutual

/-- The outline of the value at a place, and the place after it unless the text breaks off in it. -/
def outlineAt : Nat → Place → Outline × Option Place
  | 0, p => (.broken (Breach.recursionLimit.break p.offset), none)
  | fuel + 1, p =>
    match p.rest with
    | [] => (.broken (Breach.endInValue.break p.offset), none)
    | b :: _ =>
      if b = 0x22 then stringAt p
      else if b = 0x2D ∨ isDigit b then numberAt p
      else if b = 0x6E then wordAt p [0x75, 0x6C, 0x6C] .null
      else if b = 0x74 then wordAt p [0x72, 0x75, 0x65] (.bool true)
      else if b = 0x66 then wordAt p [0x61, 0x6C, 0x73, 0x65] (.bool false)
      else if b = 0x5B then
        let first := (p.advance 1).skipBlanks
        match first.rest with
        | [] => (.array p.offset [] (.broken (Breach.endInList.break first.offset)), none)
        | 0x5D :: _ => (.array p.offset [] (.closed (first.offset + 1)), some (first.advance 1))
        | _ =>
          let (items, finish, after) := itemsAt fuel first
          (.array p.offset items finish, after)
      else if b = 0x7B then
        let first := (p.advance 1).skipBlanks
        match first.rest with
        | [] =>
          let b := { Breach.endInObject.break first.offset with choosing := Breach.endInValue.at first.offset }
          (.object p.offset [] (.broken b), none)
        | 0x7D :: _ => (.object p.offset [] (.closed (first.offset + 1)), some (first.advance 1))
        | 0x22 :: _ =>
          let (members, finish, after) := membersAt fuel p.offset first
          (.object p.offset members finish, after)
        | _ =>
          let fault := (outlineAt fuel first).1.unfit "variant identifier"
          let b := { Breach.keyMustBeString.break (first.offset + 1) with choosing := fault }
          (.object p.offset [] (.broken b), none)
      else (.broken (Breach.expectedValue.break (p.offset + 1)), none)

/-- The outlines of the items from a place on, and how their array ends. An array breaks off with its last item,
which has the fault that counts. -/
def itemsAt : Nat → Place → List (Nat × Outline) × Finish × Option Place
  | 0, p => ([], .broken (Breach.recursionLimit.break p.offset), none)
  | fuel + 1, p =>
    let (item, after) := outlineAt fuel p
    match after.map Place.skipBlanks with
    | none => ([(p.peeked, item)], .broken (Breach.endInList.break p.offset), none)
    | some q =>
      match q.rest with
      | [] => ([(p.peeked, item)], .broken (Breach.endInList.break q.offset), none)
      | 0x5D :: _ => ([(p.peeked, item)], .closed (q.offset + 1), some (q.advance 1))
      | 0x2C :: _ =>
        let next := (q.advance 1).skipBlanks
        match next.rest with
        | 0x5D :: _ =>
          ([(p.peeked, item)],
            .broken { Breach.expectedValue.break (next.offset + 1) with
              reading := Breach.trailingComma.at (next.offset + 1) }, none)
        | _ =>
          let (items, finish, after) := itemsAt fuel next
          ((p.peeked, item) :: items, finish, after)
      | _ => ([(p.peeked, item)], .broken (Breach.expectedCommaOrBracket.break (q.offset + 1)), none)

/-- The outlines of the members from a place on where a name starts, and how their object ends. An object breaks
off with its last member, which has the fault that counts. -/
def membersAt : Nat → Nat → Place → List (Key × Outline) × Finish × Option Place
  | 0, _, p => ([], .broken (Breach.recursionLimit.break p.offset), none)
  | fuel + 1, before, p =>
    let start := p.advance 1
    let unfinished := Finish.broken (Breach.endInObject.break p.offset)
    match passString start.offset start.rest with
    | .error fault => ([(⟨before, start, start.offset⟩, .broken ⟨fault, fault, fault⟩)], unfinished, none)
    | .ok named =>
      let colon := named.skipBlanks
      let key : Key := ⟨before, start, if colon.rest.head? = some 0x7D then colon.offset + 1 else colon.offset⟩
      match colon.rest with
      | [] => ([(key, .broken (Breach.endInObject.break colon.offset))], unfinished, none)
      | 0x3A :: _ =>
        let (value, after) := outlineAt fuel (colon.advance 1).skipBlanks
        match after.map Place.skipBlanks with
        | none => ([(key, value)], unfinished, none)
        | some q =>
          match q.rest with
          | [] => ([(key, value)], .broken (Breach.endInObject.break q.offset), none)
          | 0x7D :: _ => ([(key, value)], .closed (q.offset + 1), some (q.advance 1))
          | 0x2C :: _ =>
            let next := (q.advance 1).skipBlanks
            match next.rest with
            | [] =>
              let b := { Breach.endInObject.break next.offset with reading := Breach.endInValue.at next.offset }
              ([(key, value)], .broken (b.behindMember q.offset), none)
            | 0x22 :: _ =>
              let (members, finish, after) := membersAt fuel q.offset next
              ((key, value) :: members, finish, after)
            | 0x7D :: _ =>
              let b := { Breach.keyMustBeString.break (next.offset + 1) with
                reading := Breach.trailingComma.at (next.offset + 1) }
              ([(key, value)], .broken (b.behindMember q.offset), none)
            | _ =>
              let b := Breach.keyMustBeString.break (next.offset + 1)
              ([(key, value)], .broken (b.behindMember q.offset), none)
          | _ =>
            let b := Breach.expectedCommaOrBrace.break (q.offset + 1)
            ([(key, value)], .broken (b.behindMember q.offset), none)
      | _ => ([(key, .broken (Breach.expectedColon.break (colon.offset + 1)))], unfinished, none)

end

/-- A whole text: the outline of its value, and a fault where something follows the value. -/
structure Document where
  root : Outline
  trailing : Option Fault

/-- The layout of a text. Every second step of the layout takes a byte. -/
def Document.ofBytes (text : List UInt8) : Document :=
  let (root, after) := outlineAt (2 * text.length + 2) (Place.start text).skipBlanks
  match after.map Place.skipBlanks with
  | none => ⟨root, none⟩
  | some q => ⟨root, if q.rest = [] then none else some (Breach.trailingCharacters.at (q.offset + 1))⟩

def nestingLimit : Nat := 127

def Finish.read : Finish → Except Fault Unit
  | .closed _ => .ok ()
  | .broken b => .error b.reading

def Finish.pass : Finish → Except Fault Unit
  | .closed _ => .ok ()
  | .broken b => .error b.passing

mutual

/-- The value of an outline that may nest to some depth. -/
def Outline.value (depth : Nat) : Outline → Except Fault Json
  | .null _ => .ok .null
  | .bool b _ => .ok (.bool b)
  | .number _ literal stop => (literal.value stop).map .number
  | .string start _ => (readString start).map fun (s, _) => .string s
  | .array start items finish =>
    if depth = 0 then .error (Breach.recursionLimit.at (start + 1))
    else do
      let values ← itemValues (depth - 1) items
      finish.read
      .ok (.array values)
  | .object start members finish =>
    if depth = 0 then .error (Breach.recursionLimit.at (start + 1))
    else do
      let values ← memberValues (depth - 1) members
      finish.read
      .ok (.object (Entries.sorted values))
  | .broken b => .error b.reading

def itemValues (depth : Nat) : List (Nat × Outline) → Except Fault (List Json)
  | [] => .ok []
  | (_, item) :: rest => do
    let value ← item.value depth
    let values ← itemValues depth rest
    .ok (value :: values)

def memberValues (depth : Nat) : List (Key × Outline) → Except Fault (List (String × Json))
  | [] => .ok []
  | (key, member) :: rest => do
    let (name, _) ← readString key.start
    let value ← member.value depth
    let values ← memberValues depth rest
    .ok ((name, value) :: values)

end

mutual

/-- Passes over a value of any depth, of which only the grammar matters. -/
def Outline.pass : Outline → Except Fault Unit
  | .null _ | .bool _ _ | .number _ _ _ => .ok ()
  | .string _ passed => passed.map fun _ => ()
  | .array _ items finish => do
    passItems items
    finish.pass
  | .object _ members finish => do
    passMembers members
    finish.pass
  | .broken b => .error b.passing

def passItems : List (Nat × Outline) → Except Fault Unit
  | [] => .ok ()
  | (_, item) :: rest => do
    item.pass
    passItems rest

def passMembers : List (Key × Outline) → Except Fault Unit
  | [] => .ok ()
  | (_, member) :: rest => do
    member.pass
    passMembers rest

end

def Document.readWith {α : Type} (read : Outline → Except Fault α) (text : List UInt8) : Except String α :=
  let document := Document.ofBytes text
  let outcome := do
    let value ← read document.root
    match document.trailing with
    | none => .ok value
    | some fault => .error fault
  outcome.mapError (Fault.message text)

/-- Reads a JSON text; members of an object are sorted by name, and of those of one name the last stays. -/
def read (text : List UInt8) : Except String Json :=
  Document.readWith (Outline.value nestingLimit) text

end RequestBinding.Json
