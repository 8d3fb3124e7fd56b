import Decorate.Version.Basic

/-!
# Ranges of standard versions

A definition names the standard versions it supports by two inclusive
bounds, either of which may be left open. A range whose bounds are in
the wrong order cannot be built.
-/

namespace Decorate

/-- Holds of two bounds unless both are given and the lower one is the larger. -/
def StandardRange.Ordered : Option Version → Option Version → Prop
  | some min, some max => min ≤ max
  | _, _ => True

instance StandardRange.decidableOrdered :
    (min max : Option Version) → Decidable (StandardRange.Ordered min max)
  | some min, some max => inferInstanceAs (Decidable (min ≤ max))
  | some _, none => isTrue trivial
  | none, some _ => isTrue trivial
  | none, none => isTrue trivial

structure StandardRange where
  min : Option Version
  max : Option Version
  ordered : StandardRange.Ordered min max
deriving DecidableEq

/-- Two bounds in the wrong order. -/
structure RangeError where
  min : Version
  max : Version
deriving DecidableEq, Repr

def RangeError.message (e : RangeError) : String :=
  "invalid standard range: minimum " ++ e.min.text ++ " exceeds maximum " ++ e.max.text

namespace StandardRange

/-- The range of every version. -/
def unbounded : StandardRange := ⟨none, none, trivial⟩

def ofBounds : (min max : Option Version) → Except RangeError StandardRange
  | some min, some max =>
    if h : min ≤ max then .ok ⟨some min, some max, h⟩ else .error ⟨min, max⟩
  | some min, none => .ok ⟨some min, none, trivial⟩
  | none, max => .ok ⟨none, max, by cases max <;> trivial⟩

def contains (range : StandardRange) (v : Version) : Bool :=
  range.min.all (fun min => decide (min ≤ v)) && range.max.all (fun max => decide (v ≤ max))

@[simp] theorem contains_unbounded (v : Version) : unbounded.contains v = true := rfl

end StandardRange

end Decorate
