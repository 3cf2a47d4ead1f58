import RequestBinding.Json.Fault
import RequestBinding.Text.Utf8

/-! Places in a JSON text, and numbers and strings as it writes them. -/

namespace RequestBinding.Json

/-- A place in a text: the bytes before it, counted, and the bytes after it. -/
structure Place where
  offset : Nat
  rest : List UInt8

namespace Place

def start (text : List UInt8) : Place := ⟨0, text⟩

def isBlank (b : UInt8) : Bool := b == 0x20 || b == 0x0A || b == 0x09 || b == 0x0D

def advance (p : Place) (count : Nat) : Place := ⟨p.offset + count, p.rest.drop count⟩

def skipBlanks (p : Place) : Place :=
  ⟨p.offset + (p.rest.takeWhile isBlank).length, p.rest.dropWhile isBlank⟩

/-- The offset after the next byte, or the end of the text. -/
def peeked (p : Place) : Nat := if p.rest = [] then p.offset else p.offset + 1

end Place

/-- A number as it is written, digits by value. -/
structure NumberLiteral where
  negative : Bool
  whole : List Nat
  fraction : Option (List Nat)
  exponent : Option (Bool × List Nat)

def isDigit (b : UInt8) : Bool := decide (0x30 ≤ b) && decide (b ≤ 0x39)

def digitsOf (bytes : List UInt8) : List Nat := (bytes.takeWhile isDigit).map fun b => b.toNat - 48

/-- A missing digit: the text ends, or has something else there. -/
def missingDigit (p : Place) : Fault :=
  if p.rest = [] then Breach.endInValue.at p.offset else Breach.invalidNumber.at (p.offset + 1)

def scanDigits (p : Place) : Except Fault (List Nat × Place) :=
  let digits := digitsOf p.rest
  if digits = [] then .error (missingDigit p) else .ok (digits, p.advance digits.length)

/-- Digits of the whole part: a zero stands alone. -/
def scanWhole (p : Place) : Except Fault (List Nat × Place) := do
  let (digits, after) ← scanDigits p
  match digits with
  | 0 :: _ :: _ => .error (Breach.invalidNumber.at (p.offset + 2))
  | _ => .ok (digits, after)

/-- A point and digits, where there is a point. -/
def scanFraction (p : Place) : Except Fault (Option (List Nat) × Place) :=
  match p.rest with
  | 0x2E :: _ => do
    let (digits, after) ← scanDigits (p.advance 1)
    .ok (some digits, after)
  | _ => .ok (none, p)

/-- An exponent mark, a sign and digits, where there is a mark. -/
def scanExponent (p : Place) : Except Fault (Option (Bool × List Nat) × Place) :=
  match p.rest with
  | mark :: after =>
    if mark = 0x65 ∨ mark = 0x45 then do
      let (negative, signed) := match after with
        | 0x2B :: _ => (false, 1)
        | 0x2D :: _ => (true, 1)
        | _ => (false, 0)
      let (digits, next) ← scanDigits (p.advance (1 + signed))
      .ok (some (negative, digits), next)
    else .ok (none, p)
  | [] => .ok (none, p)

def scanNumber (p : Place) : Except Fault (NumberLiteral × Place) := do
  let (negative, start) := match p.rest with
    | 0x2D :: _ => (true, p.advance 1)
    | _ => (false, p)
  let (whole, p) ← scanWhole start
  let (fraction, p) ← scanFraction p
  let (exponent, p) ← scanExponent p
  .ok (⟨negative, whole, fraction, exponent⟩, p)

/-- Appends digits to a value while it stays within a limit; the digits that are left. -/
def fill (limit value : Nat) : List Nat → Nat × List Nat
  | [] => (value, [])
  | d :: rest => if value * 10 + d ≤ limit then fill limit (value * 10 + d) rest else (value, d :: rest)

def significandLimit : Nat := 0xFFFFFFFFFFFFFFFF

def exponentLimit : Nat := 0x7FFFFFFF

def powerOfTen (n : Nat) : Double := Binary.ofDecimal .double false 1 n

/-- Scales by a power of ten in steps of at most 308, rounding each time; nothing where the result is too
large. Three steps down take every significand to zero. -/
def scale (x : Double) (exponent : Int) : Nat → Option Double
  | 0 => some x
  | steps + 1 =>
    if exponent.natAbs ≤ 308 then
      if 0 ≤ exponent then
        let product := x.mul (powerOfTen exponent.natAbs)
        if product.isFinite then some product else none
      else some (x.div (powerOfTen exponent.natAbs))
    else if x.isZero then some x
    else if 0 ≤ exponent then none
    else scale (x.div (powerOfTen 308)) (exponent + 308) steps

def fractional (negative : Bool) (significand : Nat) (exponent : Int) (stop : Nat) : Except Fault Number :=
  match scale (Binary.ofInt .double significand) exponent 4 with
  | none => .error (Breach.numberOutOfRange.at stop)
  | some x =>
    match Number.ofDouble? (if negative then x.neg else x) with
    | none => .error (Breach.numberOutOfRange.at stop)
    | some found => .ok found

/-- The value of a literal that stops at an offset. Digits go into a significand of 64 bits; once it is full
further ones of the whole part count as a power of ten, and further ones of the fraction are dropped. A whole
number that the significand holds stays exact, zero with a minus sign apart. -/
def NumberLiteral.value (l : NumberLiteral) (stop : Nat) : Except Fault Number :=
  let (significand, left) := fill significandLimit 0 l.whole
  let fraction := l.fraction.getD []
  let (significand, dropped) := fill significandLimit significand fraction
  let power : Int := left.length - (fraction.length - dropped.length : Nat)
  match l.fraction, l.exponent with
  | none, none =>
    if left ≠ [] then fractional l.negative significand power stop
    else if l.negative ∧ (significand = 0 ∨ 0x8000000000000000 < significand) then fractional true significand 0 stop
    else match Number.ofInt? (if l.negative then -(significand : Int) else significand) with
      | some found => .ok found
      | none => .error (Breach.numberOutOfRange.at stop)
  | _, none => fractional l.negative significand power stop
  | _, some (negative, digits) =>
    let (exponent, beyond) := fill exponentLimit 0 digits
    if beyond ≠ [] then
      if significand ≠ 0 ∧ !negative then .error (Breach.numberOutOfRange.at (stop - beyond.length + 1))
      else fractional l.negative 0 0 stop
    else fractional l.negative significand (if negative then power - exponent else power + exponent) stop

def hexValue? (b : UInt8) : Option Nat :=
  if isDigit b then some (b.toNat - 48)
  else if 0x61 ≤ b ∧ b ≤ 0x66 then some (b.toNat - 87)
  else if 0x41 ≤ b ∧ b ≤ 0x46 then some (b.toNat - 55)
  else none

def hexUnit? (a b c d : UInt8) : Option Nat := do
  some ((((← hexValue? a) * 16 + (← hexValue? b)) * 16 + (← hexValue? c)) * 16 + (← hexValue? d))

def simpleEscape? (b : UInt8) : Option UInt8 :=
  if b = 0x22 ∨ b = 0x5C ∨ b = 0x2F then some b
  else if b = 0x62 then some 0x08
  else if b = 0x66 then some 0x0C
  else if b = 0x6E then some 0x0A
  else if b = 0x72 then some 0x0D
  else if b = 0x74 then some 0x09
  else none

def isLeadingUnit (n : Nat) : Bool := decide (0xD800 ≤ n) && decide (n < 0xDC00)

def isTrailingUnit (n : Nat) : Bool := decide (0xDC00 ≤ n) && decide (n < 0xE000)

/-- The second half of a pair, after its first half: the unit and the bytes it takes. -/
def trailingUnit (after : List UInt8) : Except (Breach × Nat) Nat :=
  match after with
  | 0x5C :: 0x75 :: a :: b :: c :: d :: _ =>
    match hexUnit? a b c d with
    | none => .error (.invalidEscape, 6)
    | some n => if isTrailingUnit n then .ok n else .error (.loneSurrogate, 6)
  | 0x5C :: 0x75 :: short => .error (.endInString, 2 + short.length)
  | 0x5C :: _ :: _ => .error (.endInHexEscape, 2)
  | [0x5C] => .error (.endInString, 1)
  | [] => .error (.endInString, 0)
  | _ => .error (.endInHexEscape, 1)

/-- What an escape stands for, given the bytes after its backslash, and how many of them it takes; a breach
comes with the number of bytes read to find it. -/
def unescape (after : List UInt8) : Except (Breach × Nat) (List UInt8 × Nat) :=
  match after with
  | [] => .error (.endInString, 0)
  | 0x75 :: a :: b :: c :: d :: rest =>
    match hexUnit? a b c d with
    | none => .error (.invalidEscape, 5)
    | some n =>
      if isTrailingUnit n then .error (.loneSurrogate, 5)
      else if isLeadingUnit n then
        match trailingUnit rest with
        | .error (breach, count) => .error (breach, 5 + count)
        | .ok low =>
          .ok (String.utf8EncodeChar (Char.ofNat ((n - 0xD800) * 0x400 + (low - 0xDC00) + 0x10000)), 11)
      else .ok (String.utf8EncodeChar (Char.ofNat n), 5)
  | 0x75 :: short => .error (.endInString, 1 + short.length)
  | b :: _ =>
    match simpleEscape? b with
    | some byte => .ok ([byte], 1)
    | none => .error (.invalidEscape, 1)

/-- Reads the content of a string up to its closing quote, on top of the bytes read so far, in reverse. -/
def content (done : List UInt8) (offset : Nat) : List UInt8 → Except Fault (List UInt8 × Nat)
  | [] => .error (Breach.endInString.at offset)
  | b :: rest =>
    if b = 0x22 then .ok (done.reverse, offset + 1)
    else if b = 0x5C then
      match unescape rest with
      | .error (breach, count) => .error (breach.at (offset + 1 + count))
      | .ok (bytes, count) => content (bytes.reverse ++ done) (offset + 1 + count) (rest.drop count)
    else if b < 0x20 then .error (Breach.controlCharacter.at (offset + 1))
    else content (b :: done) (offset + 1) rest
termination_by bytes => bytes.length
decreasing_by all_goals
  simp only [List.length_cons, List.length_drop]
  omega

def readString (p : Place) : Except Fault (String × Nat) := do
  let (bytes, stop) ← content [] p.offset p.rest
  match Utf8.decode? bytes with
  | some s => .ok (s, stop)
  | none => .error (Breach.invalidCodePoint.at (p.offset + Utf8.validLength p.rest + 1))

/-- How many bytes an escape takes after its backslash, whatever it stands for. -/
def escapeLength (after : List UInt8) : Except (Breach × Nat) Nat :=
  match after with
  | [] => .error (.endInString, 0)
  | 0x75 :: a :: b :: c :: d :: _ => if (hexUnit? a b c d).isSome then .ok 5 else .error (.invalidEscape, 5)
  | 0x75 :: short => .error (.endInString, 1 + short.length)
  | b :: _ => if (simpleEscape? b).isSome then .ok 1 else .error (.invalidEscape, 1)

/-- Passes over a string from after its opening quote to after its closing one. -/
def passString (offset : Nat) : List UInt8 → Except Fault Place
  | [] => .error (Breach.endInString.at offset)
  | b :: rest =>
    if b = 0x22 then .ok ⟨offset + 1, rest⟩
    else if b = 0x5C then
      match escapeLength rest with
      | .error (breach, count) => .error (breach.at (offset + 1 + count))
      | .ok count => passString (offset + 1 + count) (rest.drop count)
    else if b < 0x20 then .error (Breach.controlCharacter.at offset)
    else passString (offset + 1) rest
termination_by bytes => bytes.length
decreasing_by all_goals
  simp only [List.length_cons, List.length_drop]
  omega

end RequestBinding.Json
