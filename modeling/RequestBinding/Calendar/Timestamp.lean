import RequestBinding.Calendar.Date
import RequestBinding.Text.Utf8

/-! Moments: a day, a time of the day and the offset of the clock, and their text. -/

namespace RequestBinding

/-- A time of the day. A second of 60 is a leap second. -/
structure Clock where
  hour : Nat
  minute : Nat
  second : Nat
  nanosecond : Nat
  hour_lt : hour < 24
  minute_lt : minute < 60
  second_le : second ≤ 60
  nanosecond_lt : nanosecond < 1000000000
deriving DecidableEq

def Clock.of? (hour minute second nanosecond : Nat) : Option Clock :=
  if h : hour < 24 ∧ minute < 60 ∧ second ≤ 60 ∧ nanosecond < 1000000000 then
    some ⟨hour, minute, second, nanosecond, h.1, h.2.1, h.2.2.1, h.2.2.2⟩
  else none

/-- A moment as a clock with an offset shows it, the offset in minutes and of less than a day. -/
structure Timestamp where
  date : Date
  clock : Clock
  offset : Int
  offset_lt : offset.natAbs < 1440
deriving DecidableEq

namespace Timestamp

/-- The fraction of a second in as few groups of three digits as hold it. -/
def writeFraction (nanosecond : Nat) : List Char :=
  if nanosecond = 0 then []
  else if nanosecond % 1000000 = 0 then '.' :: Date.padded 3 (nanosecond / 1000000)
  else if nanosecond % 1000 = 0 then '.' :: Date.padded 6 (nanosecond / 1000)
  else '.' :: Date.padded 9 nanosecond

/-- An offset with its sign, a letter for none. -/
def writeOffset (offset : Int) : List Char :=
  if offset = 0 then ['Z']
  else (if offset < 0 then '-' else '+')
    :: Date.padded 2 (offset.natAbs / 60) ++ ':' :: Date.padded 2 (offset.natAbs % 60)

def write (t : Timestamp) : List Char :=
  t.date.write ++ 'T' :: Date.padded 2 t.clock.hour ++ ':' :: Date.padded 2 t.clock.minute
    ++ ':' :: Date.padded 2 t.clock.second ++ writeFraction t.clock.nanosecond ++ writeOffset t.offset

def text (t : Timestamp) : String := String.ofList t.write

/-- Moves a day by one for each day that minutes run over. -/
def carryDay (date : Date) (minutes : Int) : Date :=
  if minutes < 0 then date.previous else if minutes < 1440 then date else date.next

/-- The same moment on a clock without offset. -/
def inUtc (t : Timestamp) : Timestamp :=
  let minutes : Int := (t.clock.hour * 60 + t.clock.minute : Nat) - t.offset
  let clock : Clock :=
    { t.clock with
      hour := (minutes % 1440).toNat / 60
      minute := (minutes % 1440).toNat % 60
      hour_lt := by omega
      minute_lt := by omega }
  ⟨carryDay t.date minutes, clock, 0, by decide⟩

def digit? (b : UInt8) : Option Nat := if 0x30 ≤ b ∧ b ≤ 0x39 then some (b.toNat - 48) else none

/-- A number of exactly as many digits as there are bytes. -/
def fixedDigits (value : Nat) : List UInt8 → Except CalendarFault Nat
  | [] => .ok value
  | b :: rest =>
    match digit? b with
    | some d => fixedDigits (value * 10 + d) rest
    | none => .error .invalid

def digitsAt (text : List UInt8) (start count : Nat) : Except CalendarFault Nat :=
  fixedDigits 0 ((text.drop start).take count)

def expectAt (text : List UInt8) (place : Nat) (allowed : List UInt8) : Except CalendarFault Unit :=
  match text[place]? with
  | some b => if allowed.contains b then .ok () else .error .invalid
  | none => .error .premature

/-- A fraction in nanoseconds, of which digits beyond the ninth are dropped, and what follows. -/
def readFraction : List UInt8 → Except CalendarFault (Nat × List UInt8)
  | 0x2E :: rest =>
    match rest with
    | [] => .error .premature
    | _ =>
      let digits := rest.takeWhile fun b => (digit? b).isSome
      if digits = [] then .error .invalid
      else do
        let kept := digits.take 9
        let value ← fixedDigits 0 kept
        .ok (value * Nat.pow 10 (9 - kept.length), rest.drop digits.length)
  | rest => .ok (0, rest)

/-- Two digits of an offset. -/
def readPair : List UInt8 → Except CalendarFault (Nat × List UInt8)
  | a :: b :: rest => (fixedDigits 0 [a, b]).map fun n => (n, rest)
  | _ => .error .premature

def readHourMinute (text : List UInt8) : Except CalendarFault (Nat × List UInt8) := do
  let (hours, rest) ← readPair text
  match rest with
  | [] => .error .premature
  | colon :: rest =>
    if colon ≠ 0x3A then .error .invalid
    else do
      let (minutes, rest) ← readPair rest
      if 60 ≤ minutes then .error .outOfRange else .ok (hours * 60 + minutes, rest)

/-- An offset in minutes and what follows. The minus sign may be the mathematical one. -/
def readOffset : List UInt8 → Except CalendarFault (Int × List UInt8)
  | [] => .error .premature
  | 0x5A :: rest | 0x7A :: rest => .ok (0, rest)
  | 0x2B :: rest => (readHourMinute rest).map fun (n, rest) => ((n : Int), rest)
  | 0x2D :: rest | 0xE2 :: 0x88 :: 0x92 :: rest => (readHourMinute rest).map fun (n, rest) => (-(n : Int), rest)
  | _ => .error .invalid

def readDay (text : List UInt8) : Except CalendarFault Date := do
  let year ← digitsAt text 0 4
  expectAt text 4 [0x2D]
  let month ← digitsAt text 5 2
  expectAt text 7 [0x2D]
  let day ← digitsAt text 8 2
  match Date.of? year month day with
  | some date => .ok date
  | none => .error .outOfRange

/-- Hour, minute and second, which stand at fixed places. -/
def readTime (text : List UInt8) : Except CalendarFault (Nat × Nat × Nat) := do
  let hour ← digitsAt text 11 2
  expectAt text 13 [0x3A]
  let minute ← digitsAt text 14 2
  expectAt text 16 [0x3A]
  let second ← digitsAt text 17 2
  .ok (hour, minute, second)

/-- Reads a moment as RFC 3339 has it. A blank may stand for the letter between day and time. -/
def read (text : List UInt8) : Except CalendarFault Timestamp := do
  if text.length < 19 then .error .premature
  else
    let date ← readDay text
    expectAt text 10 [0x54, 0x74, 0x20]
    let (hour, minute, second) ← readTime text
    let (nanosecond, rest) ← readFraction (text.drop 19)
    match Clock.of? hour minute second nanosecond with
    | none => .error .outOfRange
    | some clock =>
      let (offset, rest) ← readOffset rest
      if h : offset.natAbs < 1440 then
        if rest = [] then .ok ⟨date, clock, offset, h⟩ else .error .trailing
      else .error .outOfRange

def ofText (text : String) : Except CalendarFault Timestamp := read (Utf8.encode text)

end Timestamp
end RequestBinding
