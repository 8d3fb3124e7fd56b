import Decorate.Proofs.Conformance

/-!
# What equals itself

Definitions are compared with their numbers by value, and so a definition
is equal to itself exactly when none of its bounds is the NaN
(`Definition.same_self_iff`). Nothing else in a definition can differ from
itself. Defaults hold numbers too, but a number in a document is finite;
and a default that a definition has accepted is plain, that is, without an
object that could repeat a member (`Definition.plain_default`).

An instance contains its definition. One that matches another, with the
same definition and equal values, compares equal to it under the same
condition (`Instance.Matches.same_iff`).
-/

namespace Decorate

/-! ## Defaults -/

/-- What a value is carried by is plain. -/
theorem Value.Carries.plain {v : Value} {j : Json} (h : v.Carries j) : j.Plain := by
  induction h with
  | bool b => exact .bool b
  | number n => exact .num n
  | text s => exact .str s
  | @list values items hlength _ ih =>
      refine .arr fun j hj => ?_
      obtain ⟨k, hk⟩ := List.mem_iff_getElem?.mp hj
      have hlt : k < values.length := by
        rw [hlength]
        exact (List.getElem?_eq_some_iff.mp hk).1
      exact ih k values[k] j (List.getElem?_eq_getElem hlt) hk

/-- The default of an accepted parameter is plain. -/
theorem Definition.plain_default (d : Definition) {s : Schema} (hs : s ∈ d.parameters) {j : Json}
    (hj : s.default = some j) : j.Plain := by
  obtain ⟨-, -, hcheck⟩ := (declared_of_parametersFault? d.declared).2 s hs
  unfold Schema.checkConsistent at hcheck
  split at hcheck
  · cases hcheck
  · simp only [Schema.defaultValue, hj, Schema.validate] at hcheck
    cases hshape : s.shape.check j with
    | error e => rw [hshape] at hcheck; cases hcheck
    | ok v => exact (s.shape.carries_of_check hshape).plain

theorem Json.sameItems_self {items : List Json} (h : ∀ j ∈ items, j.same j = true) :
    sameItems items items = true := by
  induction items with
  | nil => rfl
  | cons item rest ih =>
      obtain ⟨hitem, hrest⟩ := List.forall_mem_cons.mp h
      rw [sameItems, hitem, ih hrest, Bool.and_self]

/-- Without objects a document is equal to itself. -/
theorem Json.Plain.same_self {j : Json} (h : j.Plain) : j.same j = true := by
  induction h with
  | bool b => simp [same]
  | num n => simp [same, n.same_self]
  | str s => simp [same]
  | arr _ ih =>
      rw [same]
      exact sameItems_self ih

/-! ## Schemas -/

section

variable {α : Type} {same : α → α → Bool}

theorem sameOption_self_iff {o : Option α} :
    sameOption same o o = true ↔ ∀ x, o = some x → same x x = true := by
  cases o <;> simp [sameOption]

theorem isEqv_self_iff {xs : List α} : xs.isEqv xs same = true ↔ ∀ x ∈ xs, same x x = true := by
  induction xs with
  | nil => simp [List.isEqv]
  | cons x rest ih => simp [List.isEqv, ih]

end

theorem Limits.same_self_iff {l : Limits} : l.same l = true ↔ .nan ∉ l.bounds := by
  have hbound (o : Option Double) : sameOption Double.same o o = true ↔ .nan ∉ o.toList := by
    cases o with
    | none => simp [sameOption]
    | some x => simpa [sameOption] using ne_comm
  simp [same, bounds, hbound]

theorem Shape.same_self_iff {s : Shape} : s.same s = true ↔ .nan ∉ s.bounds := by
  induction s with
  | simple kind limits => simp [same, bounds, Limits.same_self_iff]
  | withItems kind limits items ih => simp [same, bounds, Limits.same_self_iff, ih]

/-- A bound that is the NaN is no defect. -/
example :
    let s : Shape := .simple .number { range := ⟨some .nan, some (.finite .zero)⟩ }
    s.defect? = none ∧ s.same s = false := ⟨rfl, rfl⟩

/-! ## Definitions and instances -/

/-- **A definition is equal to itself unless one of its bounds is the NaN.** -/
theorem Definition.same_self_iff {d : Definition} : d.same d = true ↔ .nan ∉ d.bounds := by
  have hschema : ∀ s ∈ d.parameters, (s.same s = true ↔ .nan ∉ s.shape.bounds) := by
    intro s hs
    have hdefault : sameOption Json.same s.default s.default = true :=
      sameOption_self_iff.mpr fun j hj => (d.plain_default hs hj).same_self
    simp [Schema.same, hdefault, Shape.same_self_iff]
  simp only [same, beq_self_eq_true, Bool.true_and, Bool.and_true, isEqv_self_iff, bounds,
    List.mem_flatMap, not_exists, not_and]
  exact forall₂_congr hschema

namespace Instance

theorem Matches.refl (i : Instance) : i.Matches i :=
  ⟨rfl, by simp [sameBindings, Value.sameItems_self]⟩

/-- Instances that match are equal unless a bound in their definition is the NaN. -/
theorem Matches.same_iff {i j : Instance} (h : j.Matches i) :
    j.same i = true ↔ .nan ∉ i.definition.bounds := by
  rw [same, h.definition, h.bindings, Bool.and_true, Definition.same_self_iff]

/-- **An instance is equal to itself unless a bound in its definition is the NaN.** -/
theorem same_self_iff {i : Instance} : i.same i = true ↔ .nan ∉ i.definition.bounds :=
  (Matches.refl i).same_iff

end Instance

end Decorate
