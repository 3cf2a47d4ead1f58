import RequestBinding.Calendar.Date
import RequestBinding.Json.Value
import RequestBinding.Number.DecimalText
import RequestBinding.Toml.Text

/-! Numbers, truth values and dates of TOML, as JSON. -/

namespace RequestBinding.Toml

def endsScalar (c : Char) : Bool :=
  isBlank c || c == '\n' || c == '\r' || c == '#' || c == ',' || c == ']' || c == '}'

/-- Digits with single underscores between them, without the underscores. The first character is a digit unless
`inside` holds. -/
def digitsFrom (isDigit : Char → Bool) (inside : Bool) : List Char → Option (List Char)
  | [] => if inside then some [] else none
  | '_' :: c :: rest =>
    if inside && isDigit c then (digitsFrom isDigit true rest).map (c :: ·) else none
  | c :: rest => if isDigit c then (digitsFrom isDigit true rest).map (c :: ·) else none

def digits? (isDigit : Char → Bool) (text : List Char) : Option (List Char) := digitsFrom isDigit false text

def valueOf (base : Nat) (digits : List Char) : Nat :=
  digits.foldl (fun n c => n * base + (hexDigit? c).getD 0) 0

/-- An integer of 64 bits. -/
def bounded (n : Int) : Option Int := if -0x8000000000000000 ≤ n ∧ n < 0x8000000000000000 then some n else none

/-- Decimal digits without a zero before others. -/
def decimalDigits? (text : List Char) : Option (List Char) :=
  (digits? Char.isDigit text).bind fun digits =>
    if digits.head? = some '0' ∧ digits.length ≠ 1 then none else some digits

/-- A text without its sign, and whether it is negative. -/
def unsigned : List Char → Bool × List Char
  | '-' :: rest => (true, rest)
  | '+' :: rest => (false, rest)
  | text => (false, text)

/-- An integer in base ten, or without sign in base sixteen, eight or two. -/
def integer? : List Char → Option Int
  | '0' :: 'x' :: rest => (digits? (fun c => (hexDigit? c).isSome) rest).bind fun d => bounded (valueOf 16 d)
  | '0' :: 'o' :: rest => (digits? (fun c => '0' ≤ c ∧ c ≤ '7') rest).bind fun d => bounded (valueOf 8 d)
  | '0' :: 'b' :: rest => (digits? (fun c => c = '0' ∨ c = '1') rest).bind fun d => bounded (valueOf 2 d)
  | text =>
    let (negative, rest) := unsigned text
    (decimalDigits? rest).bind fun d => bounded (if negative then -(valueOf 10 d : Int) else valueOf 10 d)

def exponent? : List Char → Option (List Char)
  | [] => some []
  | mark :: rest =>
    if mark = 'e' ∨ mark = 'E' then
      match rest with
      | '-' :: d => (digits? Char.isDigit d).map fun d => 'e' :: '-' :: d
      | '+' :: d => (digits? Char.isDigit d).map ('e' :: ·)
      | d => (digits? Char.isDigit d).map ('e' :: ·)
    else none

/-- The digits of a number with a fraction or an exponent, without underscores. -/
def decimalText? (text : List Char) : Option (List Char) :=
  let isWhole (c : Char) : Bool := c.isDigit || c == '_'
  match decimalDigits? (text.takeWhile isWhole), text.dropWhile isWhole with
  | some whole, '.' :: rest =>
    match digits? Char.isDigit (rest.takeWhile isWhole), exponent? (rest.dropWhile isWhole) with
    | some fraction, some power => some (whole ++ '.' :: (fraction ++ power))
    | _, _ => none
  | some _, [] => none
  | some whole, rest => (exponent? rest).map (whole ++ ·)
  | none, _ => none

/-- A number as JSON, null where it is infinite or undefined. A positive one is not too large. -/
def float? (text : List Char) : Option Json :=
  let (negative, rest) := unsigned text
  if rest = ['i', 'n', 'f'] ∨ rest = ['n', 'a', 'n'] then some .null
  else (decimalText? rest).bind fun digits =>
    match DecimalText.read .double (if negative then '-' :: digits else digits) with
    | .error _ => none
    | .ok x =>
      match Json.Number.ofDouble? x with
      | some n => some (.number n)
      | none => if negative then some .null else none

/-- The number in a text of some decimal digits, if there are so many. -/
def fixed? (count : Nat) (text : List Char) : Option (Nat × List Char) :=
  let digits := text.take count
  if digits.length = count ∧ digits.all Char.isDigit then some (valueOf 10 digits, text.drop count) else none

def expect (c : Char) : List Char → Option (List Char)
  | d :: rest => if d = c then some rest else none
  | [] => none

def day? (text : List Char) : Option (Date × List Char) := do
  let (year, rest) ← fixed? 4 text
  let (month, rest) ← fixed? 2 (← expect '-' rest)
  let (day, rest) ← fixed? 2 (← expect '-' rest)
  (Date.of? year month day).map fun date => (date, rest)

/-- A time of the day stands at the head of the text; what follows it. -/
def afterTime (text : List Char) : Option (List Char) := do
  let (hour, rest) ← fixed? 2 text
  let (minute, rest) ← fixed? 2 (← expect ':' rest)
  let (second, rest) ← fixed? 2 (← expect ':' rest)
  guard (hour < 24 ∧ minute < 60 ∧ second ≤ 60)
  match rest with
  | '.' :: fraction =>
    guard ((fraction.head?.map Char.isDigit).getD false)
    some (fraction.dropWhile Char.isDigit)
  | _ => some rest

def isOffset : List Char → Bool
  | ['Z'] | ['z'] => true
  | sign :: rest =>
    (sign == '+' || sign == '-') &&
      match fixed? 2 rest with
      | some (hour, ':' :: more) => decide (hour < 24) && ((fixed? 2 more).map fun (m, r) => decide (m < 60 ∧ r = [])).getD false
      | _ => false
  | [] => false

/-- A text is a day, a time, or a day and a time with or without an offset. -/
def isMoment (text : List Char) : Bool :=
  match day? text with
  | some (_, []) => true
  | some (_, mark :: rest) =>
    (mark == 'T' || mark == 't' || mark == ' ') &&
      match afterTime rest with
      | some after => after.isEmpty || isOffset after
      | none => false
  | none => afterTime text == some []

/-- The member under which a moment stands as JSON. -/
def momentName : String := "$__toml_private_datetime"

def scalarOf (text : List Char) : Option Json :=
  if text = ['t', 'r', 'u', 'e'] then some (.bool true)
  else if text = ['f', 'a', 'l', 's', 'e'] then some (.bool false)
  else if isMoment text then some (.object [(momentName, .string (String.ofList text))])
  else match integer? text with
    | some n => some (.ofInt n)
    | none => float? text

/-- A scalar at the head of a text, and what follows it. A blank may stand between a day and a time. -/
def scalar (text : List Char) : Option (Json × List Char) :=
  let token := text.takeWhile fun c => !endsScalar c
  let rest := text.dropWhile fun c => !endsScalar c
  match rest with
  | ' ' :: more =>
    let behind := more.takeWhile fun c => !endsScalar c
    if (day? token).isSome && (behind.head?.map Char.isDigit).getD false then
      (scalarOf (token ++ ' ' :: behind)).map fun v => (v, more.dropWhile fun c => !endsScalar c)
    else (scalarOf token).map fun v => (v, rest)
  | _ => (scalarOf token).map fun v => (v, rest)

end RequestBinding.Toml
