import Decorate.Number.Binary64

/-!
# Decimal forms of binary64 numbers

A decimal is `digits · 10 ^ exponent`. Reading one gives the nearest
binary64 number (`Binary64.ofDecimal?`); writing a number takes the
decimal with the fewest digits that reads back, and of those the
nearest (`Binary64.shortest`).

The search goes through the grids of multiples of a power of ten from
the coarse to the fine. On each it asks whether one of the two
multiples next to the number reads back. The first grid where one does
holds the answer, and nothing is returned that was not read back first.
-/

namespace Decorate

/-- The value `digits · 10 ^ exponent`. -/
structure Decimal where
  digits : Nat
  exponent : Int
deriving DecidableEq, Repr

namespace Decimal

/-- The digits, most significant first. -/
def digitChars (d : Decimal) : List Char := Nat.toDigits 10 d.digits

/-- How many places the first digit stands before the decimal point. -/
def magnitude (d : Decimal) : Int := d.digitChars.length + d.exponent

/-- The quotient of natural numbers that the decimal stands for. -/
def numerator (d : Decimal) : Nat := d.digits * 10 ^ d.exponent.toNat

def denominator (d : Decimal) : Nat := 10 ^ (-d.exponent).toNat

end Decimal

namespace Binary64

/-! ## Reading -/

/-- No number of the format reaches `10 ^ 310`. -/
def decimalOverflow : Int := 310

/-- Everything below `10 ^ -330` rounds to zero. -/
def decimalUnderflow : Int := -330

/-- The nearest number to a decimal, unless it overflows. -/
def ofDecimal? (negative : Bool) (d : Decimal) : Option Binary64 :=
  if d.digits = 0 ∨ d.magnitude < decimalUnderflow then some ⟨negative, 0, representable_zero⟩
  else if d.magnitude > decimalOverflow then none
  else roundQuotient negative d.numerator d.denominator

/-! ## Writing -/

/-- Which of two decimals to write when the number lies half-way between them. -/
inductive Tie where
  | up
  | even
deriving DecidableEq, Repr

def readsBack (x : Binary64) (d : Decimal) : Bool := ofDecimal? x.negative d == some x

/-- The multiple of `10 ^ exponent` to write for `x`, if one next to it reads back. -/
def onGrid? (tie : Tie) (x : Binary64) (exponent : Int) : Option Decimal :=
  let num := x.units * 10 ^ (-exponent).toNat
  let den := unitsPerOne * 10 ^ exponent.toNat
  let lower : Decimal := ⟨num / den, exponent⟩
  let upper : Decimal := ⟨num / den + 1, exponent⟩
  let twice := 2 * (num % den)
  let preferLower :=
    twice < den || (twice == den && tie == .even && lower.digits % 2 == 0)
  match readsBack x lower, readsBack x upper with
  | true, true => some (if preferLower then lower else upper)
  | true, false => some lower
  | false, true => some upper
  | false, false => none

/-- The first hit on the grids from `10 ^ exponent` down. -/
def searchGrids (tie : Tie) (x : Binary64) : Nat → Int → Option Decimal
  | 0, _ => none
  | grids + 1, exponent =>
    match onGrid? tie x exponent with
    | some d => some d
    | none => searchGrids tie x grids (exponent - 1)

/-- A power of ten that is larger than the number: `30103 / 100000` exceeds the
logarithm of two. -/
def topExponent (x : Binary64) : Int :=
  ((x.units.log2 : Int) + 1 - unitExponent) * 30103 / 100000 + 1

/-- All the digits of the number. -/
def exact (x : Binary64) : Decimal := ⟨x.units * 5 ^ unitExponent, -(unitExponent : Int)⟩

/-- The shortest decimal that reads back as the number. Seventeen digits always do, and
the search starts at most two grids above the first digit. -/
def shortest (tie : Tie) (x : Binary64) : Decimal :=
  if x.units = 0 then ⟨0, 0⟩
  else (searchGrids tie x 20 x.topExponent).getD x.exact

theorem readsBack_of_onGrid? {tie : Tie} {x : Binary64} {e : Int} {d : Decimal}
    (h : onGrid? tie x e = some d) : readsBack x d = true := by
  unfold onGrid? at h
  simp only at h
  split at h <;> rename_i hl hu
  · have h := Option.some.inj h
    subst h
    split
    · exact hl
    · exact hu
  · exact Option.some.inj h ▸ hl
  · exact Option.some.inj h ▸ hu
  · exact absurd h (by simp)

/-- Whatever the search returns reads back. -/
theorem readsBack_of_searchGrids {tie : Tie} {x : Binary64} {d : Decimal} :
    ∀ {grids : Nat} {e : Int}, searchGrids tie x grids e = some d → readsBack x d = true
  | 0, _, h => absurd h (by simp [searchGrids])
  | grids + 1, e, h => by
    unfold searchGrids at h
    split at h
    · rename_i found
      exact readsBack_of_onGrid? (found.trans h)
    · exact readsBack_of_searchGrids h

end Binary64

end Decorate
