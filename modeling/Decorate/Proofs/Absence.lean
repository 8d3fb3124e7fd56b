import Decorate.Proofs.Reporting

/-!
# Null and absence

Null that is supplied for a declared parameter counts as nothing, so
what the parameters settle to does not change when the null entries are
struck out (`supplied?_withoutNulls`). The names that are not declared
are looked at without their values, and there null counts
(`undeclared_withoutNulls`).

`bindAll_withoutNulls` has the difference exactly: the outcomes agree
unless null is supplied under a name that no parameter has, and what is
reported besides is that such names are unknown.
-/

namespace Decorate

variable {raw : Json.Members} {decorator : String} {schemas : List Schema}

/-- What is supplied, without the entries that are null. -/
def withoutNulls (raw : Json.Members) : Json.Members := raw.filter fun entry => !entry.2.isNull

/-! ## Declared parameters -/

theorem lookup_withoutNulls (hraw : (raw.map Prod.fst).Nodup) (name : String) :
    (withoutNulls raw).lookup name = supplied? raw name :=
  Table.lookup_filter hraw (fun j => !j.isNull) name

/-- Null entries are not supplied anyway. -/
theorem supplied?_withoutNulls (hraw : (raw.map Prod.fst).Nodup) :
    supplied? (withoutNulls raw) = supplied? raw := by
  funext name
  rw [supplied?, lookup_withoutNulls hraw, supplied?, Option.filter_filter]
  simp only [Bool.and_self]

theorem declaredErrors_withoutNulls (hraw : (raw.map Prod.fst).Nodup) :
    declaredErrors decorator schemas (withoutNulls raw) = declaredErrors decorator schemas raw := by
  rw [declaredErrors, supplied?_withoutNulls hraw, declaredErrors]

theorem declaredValues_withoutNulls (hraw : (raw.map Prod.fst).Nodup) :
    declaredValues decorator schemas (withoutNulls raw) = declaredValues decorator schemas raw := by
  rw [declaredValues, supplied?_withoutNulls hraw, declaredValues]

/-- An error of a declared parameter bears its name. -/
theorem exists_parameter_eq {e : ParameterError} (he : e ∈ declaredErrors decorator schemas raw) :
    ∃ s ∈ schemas, s.name = e.parameter := by
  obtain ⟨s, hs, hsettle⟩ := mem_declaredErrors.mp he
  refine ⟨s, hs, ?_⟩
  rcases s.settle_cases raw decorator with ⟨outcome, hok, -⟩ | ⟨problem, herror, -⟩
  · cases hok.symm.trans hsettle
  · rw [← Except.error.inj (herror.symm.trans hsettle)]

/-! ## Other names -/

/-- Null is supplied under the name, and no parameter has it. -/
def StrayNull (schemas : List Schema) (raw : Json.Members) (name : String) : Prop :=
  raw.lookup name = some .null ∧ ∀ s ∈ schemas, s.name ≠ name

instance (schemas : List Schema) (raw : Json.Members) (name : String) :
    Decidable (StrayNull schemas raw name) := inferInstanceAs (Decidable (_ ∧ _))

theorem StrayNull.mem_undeclared {name : String} (h : StrayNull schemas raw name) :
    name ∈ undeclared schemas raw := by
  obtain ⟨hnull, hnone⟩ := h
  refine Decorate.mem_undeclared.mpr ⟨?_, hnone⟩
  by_contra hnot
  have hlookup : raw.lookup name = none := List.lookup_eq_none_iff.mpr fun e he => by
    simpa using fun heq => hnot (List.mem_map.mpr ⟨e, he, heq.symm⟩)
  rw [hlookup] at hnull
  cases hnull

/-- Striking out null entries takes away the stray ones among the undeclared names. -/
theorem undeclared_withoutNulls (hraw : (raw.map Prod.fst).Nodup) :
    undeclared schemas (withoutNulls raw)
      = (undeclared schemas raw).filter fun name => ¬ StrayNull schemas raw name := by
  unfold undeclared withoutNulls
  rw [List.filter_map, List.filter_map, List.filter_map, List.filter_filter, List.filter_filter]
  refine congrArg (List.map Prod.fst) (List.filter_congr fun entry hentry => ?_)
  obtain ⟨name, j⟩ := entry
  have hstray : StrayNull schemas raw name ↔ j.isNull = true ∧ ∀ s ∈ schemas, s.name ≠ name := by
    rw [StrayNull, (Table.lookup_eq_some_iff_mem hraw).mpr hentry]
    cases j <;> simp [Json.isNull]
  simp only [Function.comp_apply, hstray]
  by_cases hnone : ∀ s ∈ schemas, s.name ≠ name
  · have hany : (schemas.any fun s => s.name == name) = false := by simpa using hnone
    simp [hany, and_iff_left hnone]
  · have hany : (schemas.any fun s => s.name == name) = true := by simpa using hnone
    simp only [hany, Bool.not_true, Bool.false_and, Bool.and_false]

/-! ## Outcomes -/

/-- The errors with which binding fails; none where it succeeds. -/
def errorsOf : Except ParameterErrors Bindings → List ParameterError
  | .ok _ => []
  | .error es => es.errors

theorem errorsOf_bindAll :
    errorsOf (bindAll decorator schemas raw) = declaredErrors decorator schemas raw
      ++ (undeclared schemas raw).map fun name => ⟨decorator, name, .unknown⟩ := by
  cases houtcome : bindAll decorator schemas raw with
  | ok b =>
      obtain ⟨hdeclared, hundeclared, -⟩ := bindAll_eq_ok_iff.mp houtcome
      rw [hdeclared, hundeclared]
      rfl
  | error es => exact (bindAll_eq_error_iff.mp houtcome).2

/-- Outcomes only depend on the errors and values of declared parameters, and on the names that
are not declared. -/
theorem bindAll_congr {raw' : Json.Members}
    (herrors : declaredErrors decorator schemas raw' = declaredErrors decorator schemas raw)
    (hvalues : declaredValues decorator schemas raw' = declaredValues decorator schemas raw)
    (hnames : undeclared schemas raw' = undeclared schemas raw) :
    bindAll decorator schemas raw' = bindAll decorator schemas raw := by
  unfold bindAll
  simp only [herrors, hvalues, hnames]

/-- A stray null is reported like any other name that is not declared. -/
theorem StrayNull.mem_errorsOf {name : String} (h : StrayNull schemas raw name)
    (decorator : String) :
    (⟨decorator, name, .unknown⟩ : ParameterError) ∈ errorsOf (bindAll decorator schemas raw) := by
  rw [errorsOf_bindAll]
  exact List.mem_append_right _ (List.mem_map_of_mem h.mem_undeclared)

/-- What is reported besides is that stray nulls are unknown. -/
theorem errorsOf_withoutNulls (hraw : (raw.map Prod.fst).Nodup) :
    errorsOf (bindAll decorator schemas (withoutNulls raw))
      = (errorsOf (bindAll decorator schemas raw)).filter
          fun e => ¬ StrayNull schemas raw e.parameter := by
  have hdeclared : (declaredErrors decorator schemas raw).filter
      (fun e => ¬ StrayNull schemas raw e.parameter) = declaredErrors decorator schemas raw := by
    refine List.filter_eq_self.mpr fun e he => decide_eq_true fun hstray => ?_
    obtain ⟨s, hs, hname⟩ := exists_parameter_eq he
    exact hstray.2 s hs hname
  rw [errorsOf_bindAll, errorsOf_bindAll, List.filter_append, hdeclared, List.filter_map,
    declaredErrors_withoutNulls hraw, undeclared_withoutNulls hraw]
  rfl

/-- **Null is the same as absence, except under a name that is not declared.** The outcomes with
and without the null entries are the same unless there is such a name. Then binding fails, for
that name among others, and the errors without the null entries are the other ones. -/
theorem bindAll_withoutNulls (hraw : (raw.map Prod.fst).Nodup) (decorator : String)
    (schemas : List Schema) :
    (bindAll decorator schemas (withoutNulls raw) = bindAll decorator schemas raw ↔
        ∀ name, ¬ StrayNull schemas raw name)
      ∧ (∀ name, StrayNull schemas raw name →
          ∃ es, bindAll decorator schemas raw = .error es
            ∧ (⟨decorator, name, .unknown⟩ : ParameterError) ∈ es.errors)
      ∧ errorsOf (bindAll decorator schemas (withoutNulls raw))
          = (errorsOf (bindAll decorator schemas raw)).filter
              fun e => ¬ StrayNull schemas raw e.parameter := by
  have herrors := @errorsOf_withoutNulls raw decorator schemas hraw
  refine ⟨⟨fun hsame name hstray => ?_, fun hnone => ?_⟩, fun name hstray => ?_, herrors⟩
  · -- its error is there with null, and not without
    have hmem := hstray.mem_errorsOf decorator
    rw [← hsame, herrors, List.mem_filter, decide_eq_true_iff] at hmem
    exact hmem.2 hstray
  · refine bindAll_congr (declaredErrors_withoutNulls hraw) (declaredValues_withoutNulls hraw) ?_
    rw [undeclared_withoutNulls hraw]
    exact List.filter_eq_self.mpr fun name _ => decide_eq_true (hnone name)
  · have hmem := hstray.mem_errorsOf decorator
    cases houtcome : bindAll decorator schemas raw with
    | ok b =>
        rw [houtcome] at hmem
        cases hmem
    | error es =>
        rw [houtcome] at hmem
        exact ⟨es, rfl, hmem⟩

/-- A topic, and null for two parameters that can do without a value. -/
def topicOnly : Json.Members := [("verbose", .null), ("topic", .str "cells"), ("depth", .null)]

/-- Null for a parameter that is required, and under a name that is not declared. -/
def twoNulls : Json.Members := [("more", .null), ("extra", .bool true), ("topic", .null)]

/-- Without stray nulls the outcomes are the same, here a success; the stray null of the other
members is reported, and without it the two other errors are left. -/
theorem bindAll_withoutNulls_reasoning :
    (topicOnly.map Prod.fst).Nodup ∧ (twoNulls.map Prod.fst).Nodup
      ∧ (∃ b, bindAll "Reasoning" Definition.reasoning.parameters topicOnly = .ok b
          ∧ b.keys = ["depth", "topic"]
          ∧ bindAll "Reasoning" Definition.reasoning.parameters (withoutNulls topicOnly) = .ok b)
      ∧ (errorsOf (bindAll "Reasoning" Definition.reasoning.parameters twoNulls)).map
          ParameterError.parameter = ["topic", "more", "extra"]
      ∧ (errorsOf (bindAll "Reasoning" Definition.reasoning.parameters (withoutNulls twoNulls))).map
          ParameterError.parameter = ["topic", "extra"] := by
  have hnodup : (topicOnly.map Prod.fst).Nodup := by decide
  have hnodup' : (twoNulls.map Prod.fst).Nodup := by decide
  obtain ⟨b, hb, hkeys⟩ : ∃ b,
      bindAll "Reasoning" Definition.reasoning.parameters topicOnly = .ok b
        ∧ b.keys = ["depth", "topic"] := ⟨_, rfl, by decide +kernel⟩
  have hnone : ∀ name, ¬ StrayNull Definition.reasoning.parameters topicOnly name := by
    intro name hstray
    have hmem := hstray.mem_errorsOf "Reasoning"
    rw [hb] at hmem
    cases hmem
  refine ⟨hnodup, hnodup', ⟨b, hb, hkeys, ?_⟩, by decide +kernel, ?_⟩
  · rw [(bindAll_withoutNulls hnodup _ _).1.mpr hnone, hb]
  · rw [(bindAll_withoutNulls hnodup' _ _).2.2]
    decide +kernel

/-- A topic, and null under a name that is not declared. -/
def strayOnly : Json.Members := [("topic", .str "cells"), ("more", .null)]

/-- With the null entry binding fails, for its name, and without it succeeds. -/
theorem bindAll_stray :
    (strayOnly.map Prod.fst).Nodup
      ∧ errorsOf (bindAll "Reasoning" Definition.reasoning.parameters strayOnly)
          = [⟨"Reasoning", "more", .unknown⟩]
      ∧ ∃ b, bindAll "Reasoning" Definition.reasoning.parameters (withoutNulls strayOnly) = .ok b
          ∧ b.keys = ["depth", "topic"] :=
  ⟨by decide, by decide +kernel, _, rfl, by decide +kernel⟩

end Decorate
