import Decorate.Number.Layout

/-!
# Numbers of the double format

The finite numbers, the two infinities, and the NaN, of which one stands
for all. Documents hold finite numbers only; a bound that a program sets
may be any of these.

Comparison is that of the format: the NaN is neither less than, equal to
nor greater than any number, itself included. Hence a bound that is the
NaN refuses nothing, and `Double.same` is reflexive on all other numbers
only (`Double.same_self_iff`).
-/

namespace Decorate

inductive Double where
  | finite (x : Binary64)
  | infinite (negative : Bool)
  | nan
deriving DecidableEq

namespace Double

def isFinite : Double → Bool
  | finite _ => true
  | infinite _ | nan => false

/-! ## Comparison -/

def lt : Double → Double → Bool
  | finite x, finite y => x.lt y
  | finite _, infinite negative => !negative
  | infinite negative, finite _ => negative
  | infinite x, infinite y => x && !y
  | nan, _ | _, nan => false

/-- Numeric equality, under which the two zeros agree and the NaN agrees with nothing. -/
def same : Double → Double → Bool
  | finite x, finite y => x.same y
  | infinite x, infinite y => x == y
  | _, _ => false

@[simp] theorem same_self_iff {x : Double} : x.same x = true ↔ x ≠ nan := by
  cases x <;> simp [same, Binary64.same_self]

/-! ## Text -/

/-- The form that messages show. -/
def plain : Double → String
  | finite x => x.plain
  | infinite true => "-inf"
  | infinite false => "inf"
  | nan => "NaN"

end Double

end Decorate
