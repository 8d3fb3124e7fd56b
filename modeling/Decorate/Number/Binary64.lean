import Decorate.Number.Power

/-!
# Finite binary64 numbers

The numbers of the double format that are neither infinite nor a NaN,
as exact values: a sign and a count of units, the unit being the
smallest positive number of the format, `2 ^ -1074`. A count is
representable when it has at most 53 significant bits and stays below
`2 ^ 2098`.

Because values are exact, comparing two numbers is comparing two
integers (`Binary64.toInt`), and every operation is exact arithmetic
followed by `roundQuotient`, which rounds a quotient of natural numbers
to the nearest representable count, a tie to the even neighbour.
Negative zero is a number of its own that equals zero in every
comparison.
-/

namespace Decorate

namespace Binary64

/-- The exponent of the unit, negated. -/
def unitExponent : Nat := 1074

/-- How many units make one. -/
def unitsPerOne : Nat := 2 ^ unitExponent

/-- The power of two, in units, from which on numbers overflow. -/
def overflowExponent : Nat := 2098

/-- How far the lowest significant bit of a count lies above the unit. -/
def scale (units : Nat) : Nat := units.log2 - 52

/-- At most 53 significant bits, and below the overflow threshold. -/
def Representable (units : Nat) : Prop := 2 ^ scale units ∣ units ∧ units < 2 ^ overflowExponent

instance (units : Nat) : Decidable (Representable units) :=
  inferInstanceAs (Decidable (_ ∧ _))

end Binary64

structure Binary64 where
  negative : Bool
  units : Nat
  representable : Binary64.Representable units
deriving DecidableEq

namespace Binary64

theorem representable_zero : Representable 0 := ⟨Nat.dvd_zero _, Nat.two_pow_pos _⟩

def zero : Binary64 := ⟨false, 0, representable_zero⟩

/-- One half, a number that is not whole. -/
def half : Binary64 := ⟨false, unitsPerOne / 2, by decide +kernel⟩

instance : Inhabited Binary64 := ⟨zero⟩

/-- A number with the given sign, if the count is representable. -/
def ofUnits? (negative : Bool) (units : Nat) : Option Binary64 :=
  if h : Representable units then some ⟨negative, units, h⟩ else none

/-! ## Comparison -/

/-- The signed count of units; both zeros have count zero. -/
def toInt (x : Binary64) : Int := if x.negative then -(x.units : Int) else x.units

/-- Numeric equality, under which the two zeros agree. -/
def same (x y : Binary64) : Bool := x.toInt == y.toInt

def lt (x y : Binary64) : Bool := x.toInt < y.toInt

theorem same_self (x : Binary64) : x.same x = true := by simp [same]

/-! ## Rounding -/

/-- The quotient `num / den`, counted in steps and rounded to nearest, ties to even. -/
def divideToEven (num den : Nat) : Nat :=
  let q := num / den
  let r := num % den
  if 2 * r < den then q
  else if 2 * r = den then q + q % 2
  else q + 1

/-- The representable count nearest to `num / den` ones. There is none when the
quotient, so rounded, overflows. -/
def roundQuotient (negative : Bool) (num den : Nat) : Option Binary64 :=
  let scaled := num * unitsPerOne
  let step := 2 ^ scale (scaled / den)
  ofUnits? negative (divideToEven scaled (den * step) * step)

/-! ## Integers -/

/-- The nearest number to a natural number. -/
def ofNat? (negative : Bool) (n : Nat) : Option Binary64 := roundQuotient negative n 1

/-- The nearest number to an integer that is not large enough to overflow. -/
def ofInt? (i : Int) : Option Binary64 := ofNat? (i < 0) i.natAbs

def isIntegral (x : Binary64) : Bool := x.units % unitsPerOne == 0

/-- The integer part of the magnitude. -/
def whole (x : Binary64) : Nat := x.units / unitsPerOne

/-- The value of an integral number. -/
def toWhole (x : Binary64) : Int := if x.negative then -(x.whole : Int) else x.whole

/-! ## Products and quotients -/

def negate (x : Binary64) : Binary64 := { x with negative := !x.negative }

def mul? (x y : Binary64) : Option Binary64 :=
  roundQuotient (x.negative != y.negative) (x.units * y.units) (unitsPerOne * unitsPerOne)

/-- The rounded quotient by a number that is not zero. -/
def div? (x y : Binary64) : Option Binary64 :=
  roundQuotient (x.negative != y.negative) x.units y.units

end Binary64

end Decorate
