/-! Binary floating-point numbers as bit patterns, with exact rounding of rational numbers. -/

namespace RequestBinding

/-- Widths in bits of the exponent field and of the fraction field. -/
structure Precision where
  exponent : Nat
  fraction : Nat
deriving DecidableEq, Repr

namespace Precision

abbrev single : Precision := ⟨8, 23⟩

abbrev double : Precision := ⟨11, 52⟩

/-- Bits without the sign. -/
def magnitudeWidth (p : Precision) : Nat := p.exponent + p.fraction

/-- Weight, as a power of two, of the last place of the smallest numbers. -/
def leastPower (p : Precision) : Int := 2 - (Nat.pow 2 (p.exponent - 1) : Nat) - p.fraction

/-- Magnitude pattern of infinity, above that of every finite number. -/
def infinite (p : Precision) : Nat := (Nat.pow 2 p.exponent - 1) * Nat.pow 2 p.fraction

end Precision

/-- A floating-point number: its sign and the pattern of its magnitude. -/
structure Binary (p : Precision) where
  negative : Bool
  magnitude : Nat
  bounded : magnitude < Nat.pow 2 p.magnitudeWidth
deriving DecidableEq

abbrev Single := Binary .single
abbrev Double := Binary .double

namespace Binary

/-- The number with the given pattern, bits beyond its width ignored. -/
def ofBits (p : Precision) (bits : Nat) : Binary p :=
  ⟨bits / Nat.pow 2 p.magnitudeWidth % 2 == 1, bits % Nat.pow 2 p.magnitudeWidth, Nat.mod_lt _ (Nat.two_pow_pos _)⟩

def bits {p : Precision} (x : Binary p) : Nat :=
  (if x.negative then Nat.pow 2 p.magnitudeWidth else 0) + x.magnitude

def isFinite {p : Precision} (x : Binary p) : Bool := decide (x.magnitude < p.infinite)

def isZero {p : Precision} (x : Binary p) : Bool := x.magnitude == 0

def neg {p : Precision} (x : Binary p) : Binary p := { x with negative := !x.negative }

/-- The magnitude of a finite number as a whole number of units and the power of two that the unit is. -/
def parts {p : Precision} (x : Binary p) : Nat × Int :=
  let field := x.magnitude / Nat.pow 2 p.fraction
  let units := x.magnitude % Nat.pow 2 p.fraction
  if field = 0 then (units, p.leastPower) else (units + Nat.pow 2 p.fraction, p.leastPower + field - 1)

/-- A quotient rounded to the nearest whole number, a half to the even one. -/
def roundHalfEven (numerator denominator : Nat) : Nat :=
  let floor := numerator / denominator
  let twice := 2 * (numerator % denominator)
  if twice < denominator then floor
  else if denominator < twice then floor + 1
  else floor + floor % 2

/-- A quotient in units of a power of two, rounded. -/
def inUnits (numerator denominator : Nat) (power : Int) : Nat :=
  match power with
  | .ofNat k => roundHalfEven numerator (denominator * Nat.pow 2 k)
  | .negSucc k => roundHalfEven (numerator * Nat.pow 2 (k + 1)) denominator

/-- The power of two not above a positive quotient whose double is above it. -/
def binade (numerator denominator : Nat) : Int :=
  let guess : Int := (Nat.log2 numerator : Int) - Nat.log2 denominator
  let reached := match guess with
    | .ofNat k => decide (denominator * Nat.pow 2 k ≤ numerator)
    | .negSucc k => decide (denominator ≤ numerator * Nat.pow 2 (k + 1))
  if reached then guess else guess - 1

/-- Pattern of the nearest magnitude to a quotient; from halfway beyond the largest finite one on, infinity. -/
def nearestMagnitude (p : Precision) (numerator denominator : Nat) : Nat :=
  if numerator = 0 then 0
  else
    let power := max (binade numerator denominator - p.fraction) p.leastPower
    min ((power - p.leastPower).toNat * Nat.pow 2 p.fraction + inUnits numerator denominator power) p.infinite

theorem infinite_lt (p : Precision) : p.infinite < Nat.pow 2 p.magnitudeWidth := by
  have h : Nat.pow 2 p.magnitudeWidth = Nat.pow 2 p.exponent * Nat.pow 2 p.fraction := Nat.pow_add ..
  rw [h, Precision.infinite]
  have : 0 < Nat.pow 2 p.exponent := Nat.two_pow_pos _
  exact Nat.mul_lt_mul_of_pos_right (by omega) (Nat.two_pow_pos _)

private theorem nearestMagnitude_lt (p : Precision) (numerator denominator : Nat) :
    nearestMagnitude p numerator denominator < Nat.pow 2 p.magnitudeWidth := by
  unfold nearestMagnitude
  split
  · exact Nat.two_pow_pos _
  · exact Nat.lt_of_le_of_lt (Nat.min_le_right ..) (infinite_lt p)

/-- The nearest number to a quotient, halves going to the even pattern. -/
def nearest (p : Precision) (negative : Bool) (numerator denominator : Nat) : Binary p :=
  ⟨negative, nearestMagnitude p numerator denominator, nearestMagnitude_lt ..⟩

/-- The nearest number to a whole number of powers of two. -/
def nearestScaled (p : Precision) (negative : Bool) (units : Nat) (power : Int) : Binary p :=
  match power with
  | .ofNat k => nearest p negative (units * Nat.pow 2 k) 1
  | .negSucc k => nearest p negative units (Nat.pow 2 (k + 1))

def ofInt (p : Precision) (n : Int) : Binary p := nearest p (decide (n < 0)) n.natAbs 1

/-- Moves the fraction of an infinite or undefined number to another width, keeping undefined ones so. -/
def moveSpecial {p : Precision} (q : Precision) (x : Binary p) : Binary q :=
  let fraction := x.magnitude % Nat.pow 2 p.fraction
  let moved := if p.fraction ≤ q.fraction then fraction * Nat.pow 2 (q.fraction - p.fraction)
    else fraction / Nat.pow 2 (p.fraction - q.fraction)
  let quiet := if fraction = 0 then 0 else moved ||| Nat.pow 2 (q.fraction - 1)
  ofBits q ((if x.negative then Nat.pow 2 q.magnitudeWidth else 0) + q.infinite + quiet)

def convert {p : Precision} (q : Precision) (x : Binary p) : Binary q :=
  if x.isFinite then nearestScaled q x.negative x.parts.1 x.parts.2 else moveSpecial q x

/-- The nearest number to the product of two finite numbers. -/
def mul {p : Precision} (x y : Binary p) : Binary p :=
  nearestScaled p (x.negative != y.negative) (x.parts.1 * y.parts.1) (x.parts.2 + y.parts.2)

/-- The nearest number to the quotient of two finite numbers, the second not zero. -/
def div {p : Precision} (x y : Binary p) : Binary p :=
  match x.parts.2 - y.parts.2 with
  | .ofNat k => nearest p (x.negative != y.negative) (x.parts.1 * Nat.pow 2 k) y.parts.1
  | .negSucc k => nearest p (x.negative != y.negative) x.parts.1 (y.parts.1 * Nat.pow 2 (k + 1))

/-- The nearest number to a decimal, read without ever forming a power of ten that cannot matter. -/
def ofDecimal (p : Precision) (negative : Bool) (digits : Nat) (exponent : Int) : Binary p :=
  let leading := (Nat.toDigits 10 digits).length
  if digits = 0 then nearest p negative 0 1
  else if exponent + leading > Nat.pow 2 p.exponent then ⟨negative, p.infinite, infinite_lt p⟩
  else if exponent + leading < -(Nat.pow 2 p.exponent : Int) then nearest p negative 0 1
  else match exponent with
    | .ofNat k => nearest p negative (digits * Nat.pow 10 k) 1
    | .negSucc k => nearest p negative digits (Nat.pow 10 (k + 1))

end Binary
end RequestBinding
