import RequestBinding.Number.Binary

/-! The shortest decimal that reads back to a floating-point number. -/

namespace RequestBinding.Binary

/-- A positive decimal: a whole number of units and the power of ten that the unit is. -/
structure Decimal where
  digits : Nat
  power : Int
deriving DecidableEq, Repr

/-- The same decimal with one trailing zero, that of a carry, moved into the power. -/
def Decimal.carried (d : Decimal) : Decimal :=
  if d.digits % 10 = 0 then ⟨d.digits / 10, d.power + 1⟩ else d

def timesTen (numerator denominator : Nat) : Int → Nat × Nat
  | .ofNat k => (numerator * Nat.pow 10 k, denominator)
  | .negSucc k => (numerator, denominator * Nat.pow 10 (k + 1))

/-- The numbers that round to a magnitude: the magnitude itself and the ends, over one denominator, and
whether the ends belong. -/
structure Rounding where
  value : Nat
  low : Nat
  high : Nat
  denominator : Nat
  closed : Bool

/-- The rounding interval of a positive finite number. Below a power of two the gap is half as wide. -/
def rounding {p : Precision} (x : Binary p) : Rounding :=
  let (units, power) := x.parts
  let below := if units = Nat.pow 2 p.fraction ∧ power ≠ p.leastPower then 1 else 2
  let (scale, denominator) := match power with
    | .ofNat k => (Nat.pow 2 k, 4)
    | .negSucc k => (1, 4 * Nat.pow 2 (k + 1))
  ⟨4 * units * scale, (4 * units - below) * scale, (4 * units + 2) * scale, denominator, units % 2 == 0⟩

namespace Rounding

def contains (r : Rounding) (d : Decimal) : Bool :=
  let (n, m) := timesTen (d.digits * r.denominator) 1 d.power
  if r.closed then decide (r.low * m ≤ n) && decide (n ≤ r.high * m)
  else decide (r.low * m < n) && decide (n < r.high * m)

/-- The better of the two neighbours of the value on the grid of a power of ten, if one is in the interval. -/
def onGrid (r : Rounding) (power : Int) : Option Decimal :=
  let (n, m) := timesTen r.value r.denominator (-power)
  let floor := n / m
  let below : Decimal := ⟨floor, power⟩
  let above : Decimal := ⟨floor + 1, power⟩
  match floor != 0 && r.contains below, r.contains above with
  | true, true =>
    let twice := 2 * (n % m)
    some (if twice < m ∨ (twice = m ∧ floor % 2 = 0) then below else above)
  | true, false => some below
  | false, true => some above
  | false, false => none

/-- The first grid with a neighbour in the interval, among `count` grids each ten times finer. -/
def firstGrid (r : Rounding) (power : Int) : Nat → Option Decimal
  | 0 => none
  | count + 1 =>
    match r.onGrid power with
    | some d => some d
    | none => firstGrid r (power - 1) count

end Rounding

/-- The power of ten not above a positive quotient whose tenfold is above it, for quotients that a `Double`
can hold. -/
def decade (numerator denominator : Nat) : Int :=
  let guess : Int := ((Nat.toDigits 10 numerator).length : Int) - (Nat.toDigits 10 denominator).length
  let (n, m) := timesTen numerator denominator (-guess)
  if m ≤ n then guess else guess - 1

/-- The shortest decimal that reads back to a positive finite number, of those the nearest. -/
def shortest {p : Precision} (x : Binary p) : Decimal :=
  let r := x.rounding
  ((r.firstGrid (decade r.value r.denominator) 18).getD ⟨0, 0⟩).carried

end RequestBinding.Binary
