import RequestBinding.Text.Classes

/-! Days of the Gregorian calendar, extended to all years, and their text. -/

namespace RequestBinding

/-- Why a text names no day or no moment. -/
inductive CalendarFault
  | premature
  | invalid
  | outOfRange
  | trailing
deriving DecidableEq, Repr

def CalendarFault.message : CalendarFault → String
  | premature => "premature end of input"
  | invalid => "input contains invalid characters"
  | outOfRange => "input is out of range"
  | trailing => "trailing input"

def isLeapYear (year : Int) : Bool :=
  decide (year % 4 = 0) && (decide (year % 100 ≠ 0) || decide (year % 400 = 0))

def daysInMonth (year : Int) (month : Nat) : Nat :=
  if month = 2 then (if isLeapYear year then 29 else 28)
  else if month = 4 ∨ month = 6 ∨ month = 9 ∨ month = 11 then 30
  else 31

structure Date where
  year : Int
  month : Nat
  day : Nat
  month_exists : 1 ≤ month ∧ month ≤ 12
  day_exists : 1 ≤ day ∧ day ≤ daysInMonth year month
deriving DecidableEq

namespace Date

def of? (year : Int) (month day : Nat) : Option Date :=
  if h : (1 ≤ month ∧ month ≤ 12) ∧ 1 ≤ day ∧ day ≤ daysInMonth year month then
    some ⟨year, month, day, h.1, h.2⟩
  else none

private theorem one_le_daysInMonth (year : Int) (month : Nat) : 1 ≤ daysInMonth year month := by
  unfold daysInMonth
  repeat' split
  all_goals omega

def next (d : Date) : Date :=
  if h : d.day < daysInMonth d.year d.month then
    { d with day := d.day + 1, day_exists := ⟨by omega, h⟩ }
  else if h : d.month < 12 then
    ⟨d.year, d.month + 1, 1, ⟨by omega, by omega⟩, ⟨by omega, one_le_daysInMonth ..⟩⟩
  else ⟨d.year + 1, 1, 1, by decide, ⟨by omega, one_le_daysInMonth ..⟩⟩

def previous (d : Date) : Date :=
  if h : 1 < d.day then
    { d with day := d.day - 1, day_exists := ⟨by omega, by have := d.day_exists.2; omega⟩ }
  else if h : 1 < d.month then
    ⟨d.year, d.month - 1, daysInMonth d.year (d.month - 1), ⟨by omega, by have := d.month_exists.2; omega⟩,
      ⟨one_le_daysInMonth .., by omega⟩⟩
  else ⟨d.year - 1, 12, daysInMonth (d.year - 1) 12, by decide, ⟨one_le_daysInMonth .., by omega⟩⟩

/-- Digits of a number, with zeros before them up to a width. -/
def padded (width n : Nat) : List Char :=
  let digits := Nat.toDigits 10 n
  List.replicate (width - digits.length) '0' ++ digits

/-- A year has four digits, more behind a plus sign, and a minus sign before the first year. -/
def writeYear (year : Int) : List Char :=
  if 0 ≤ year ∧ year ≤ 9999 then padded 4 year.natAbs
  else (if year < 0 then '-' else '+') :: padded 4 year.natAbs

def write (d : Date) : List Char :=
  writeYear d.year ++ '-' :: padded 2 d.month ++ '-' :: padded 2 d.day

def text (d : Date) : String := String.ofList d.write

/-- The digits at the head of a text, at most `limit` of them if there is a limit, and the rest. -/
def spanDigits (limit : Option Nat) (text : List Char) : List Char × List Char :=
  let head := match limit with
    | some n => text.take n
    | none => text
  let digits := head.takeWhile Char.isDigit
  (digits, text.drop digits.length)

/-- Reads at least one digit; the value has 63 bits at most. -/
def readDigits (limit : Option Nat) (text : List Char) : Except CalendarFault (Nat × List Char) :=
  match spanDigits limit text with
  | ([], []) => .error .premature
  | ([], _) => .error .invalid
  | (digits, rest) =>
    let value := digits.foldl (fun n c => n * 10 + (c.toNat - '0'.toNat)) 0
    if value < 0x8000000000000000 then .ok (value, rest) else .error .outOfRange

/-- A year of up to four digits, or of any number of digits behind a sign. -/
def readYear (text : List Char) : Except CalendarFault (Int × List Char) := do
  let (year, rest) ← match text with
    | '-' :: more => (readDigits none more).map fun (n, rest) => (-(n : Int), rest)
    | '+' :: more => (readDigits none more).map fun (n, rest) => ((n : Int), rest)
    | _ => (readDigits (some 4) text).map fun (n, rest) => ((n : Int), rest)
  if -0x80000000 ≤ year ∧ year < 0x80000000 then .ok (year, rest) else .error .outOfRange

/-- One or two digits that make a number from one to a limit. -/
def readCount (limit : Nat) (text : List Char) : Except CalendarFault (Nat × List Char) := do
  let (n, rest) ← readDigits (some 2) text
  if 1 ≤ n ∧ n ≤ limit then .ok (n, rest) else .error .outOfRange

def readHyphen : List Char → Except CalendarFault (List Char)
  | [] => .error .premature
  | c :: rest => if c = '-' then .ok rest else .error .invalid

/-- Years that a text can name. -/
def leastYear : Int := -262143

def greatestYear : Int := 262142

/-- Reads year, month and day joined by hyphens, with white space allowed before each number. -/
def read (text : List Char) : Except CalendarFault Date := do
  let (year, rest) ← readYear (text.dropWhile Text.isBlank)
  let rest ← readHyphen rest
  let (month, rest) ← readCount 12 (rest.dropWhile Text.isBlank)
  let rest ← readHyphen rest
  let (day, rest) ← readCount 31 (rest.dropWhile Text.isBlank)
  if rest ≠ [] then .error .trailing
  else if year < leastYear ∨ greatestYear < year then .error .outOfRange
  else match of? year month day with
    | some date => .ok date
    | none => .error .outOfRange

def ofText (text : String) : Except CalendarFault Date := read text.toList

end Date
end RequestBinding
