import Decorate.Proofs.Blame

/-!
# What binding reports

`bindAll` goes through the declared parameters and then through the
names that were supplied, and it has to come out right about all of
them at once. `Schema.Settles` and `Schema.Fails` say of one parameter
what it is bound to or what is wrong with it, and `settle_cases` that
one of them holds unless the default itself is refused, which the
parameters of a definition rule out (`Fails.of_settle_eq`).
`Definition.bindAll_reports` has binding succeed when every parameter
settles and every name is declared, with what they settle to, and fail
otherwise with each problem once, in order.
-/

namespace Decorate

variable {raw : Json.Members}

theorem supplied?_eq_some_iff {name : String} {j : Json} :
    supplied? raw name = some j ↔ raw.lookup name = some j ∧ j ≠ .null := by
  have hnull : (!j.isNull) = true ↔ j ≠ .null := by cases j <;> simp [Json.isNull]
  rw [supplied?, Option.filter_eq_some_iff, hnull]

theorem supplied?_perm {raw' : Json.Members} (hperm : raw'.Perm raw)
    (hraw : (raw.map Prod.fst).Nodup) : supplied? raw' = supplied? raw := by
  funext name
  rw [supplied?, supplied?, Table.lookup_perm hperm hraw]

/-! ## One parameter -/

namespace Schema

/-- What a parameter is bound to, if it is bound to anything. -/
inductive Settles (s : Schema) (raw : Json.Members) : Option Value → Prop
  | supplied {j : Json} {v : Value} (hsupplied : raw.lookup s.name = some j) (hnull : j ≠ .null)
      (hvalid : s.shape.check j = .ok v) : Settles s raw (some v)
  | default {j : Json} {v : Value} (habsent : Absent raw s.name) (hdefault : s.default = some j)
      (hvalid : s.shape.check j = .ok v) : Settles s raw (some v)
  | omitted (habsent : Absent raw s.name) (hoptional : s.required = false)
      (hdefault : s.default = none) : Settles s raw none

/-- What is wrong with what is supplied for a parameter. -/
inductive Fails (s : Schema) (raw : Json.Members) : Problem → Prop
  | rejected {j : Json} {v : Violation} (hsupplied : raw.lookup s.name = some j)
      (hnull : j ≠ .null) (hinvalid : s.shape.check j = .error v) : Fails s raw (.violation v)
  | missing (habsent : Absent raw s.name) (hrequired : s.required = true)
      (hdefault : s.default = none) : Fails s raw .missing

variable {s : Schema} {decorator : String}

theorem Settles.settle_eq {outcome : Option Value} (h : s.Settles raw outcome)
    (decorator : String) : s.settle decorator (supplied? raw s.name) = .ok outcome := by
  cases h with
  | supplied hsupplied hnull hvalid =>
      rw [supplied?_eq_some_iff.mpr ⟨hsupplied, hnull⟩, settle, validate, hvalid]
      rfl
  | default habsent hdefault hvalid =>
      rw [supplied?_eq_none_iff.mpr habsent, settle, defaultValue, hdefault]
      simp only [validate, hvalid, Except.map]
  | omitted habsent hoptional hdefault =>
      rw [supplied?_eq_none_iff.mpr habsent, settle, defaultValue, hdefault]
      simp [hoptional]

/-- What settling comes to: a value or none, a problem with what is supplied, or a default
that is refused. -/
theorem settle_cases (s : Schema) (raw : Json.Members) (decorator : String) :
    (∃ outcome, s.settle decorator (supplied? raw s.name) = .ok outcome ∧ s.Settles raw outcome)
      ∨ ∃ problem,
          s.settle decorator (supplied? raw s.name) = .error ⟨decorator, s.name, problem⟩
            ∧ (s.Fails raw problem ∨ ∃ j v, s.default = some j ∧ s.shape.check j = .error v) := by
  cases hj : supplied? raw s.name with
  | some j =>
      obtain ⟨hsupplied, hnull⟩ := supplied?_eq_some_iff.mp hj
      rw [settle, validate]
      cases hcheck : s.shape.check j with
      | ok v => exact Or.inl ⟨some v, rfl, .supplied hsupplied hnull hcheck⟩
      | error v => exact Or.inr ⟨.violation v, rfl, Or.inl (.rejected hsupplied hnull hcheck)⟩
  | none =>
      have habsent : Absent raw s.name := supplied?_eq_none_iff.mp hj
      rw [settle, defaultValue]
      cases hdefault : s.default with
      | none =>
          cases hrequired : s.required with
          | false => exact Or.inl ⟨none, rfl, .omitted habsent hrequired hdefault⟩
          | true => exact Or.inr ⟨.missing, rfl, Or.inl (.missing habsent hrequired hdefault)⟩
      | some j =>
          simp only [validate]
          cases hcheck : s.shape.check j with
          | ok v => exact Or.inl ⟨some v, rfl, .default habsent hdefault hcheck⟩
          | error v => exact Or.inr ⟨.violation v, rfl, Or.inr ⟨j, v, rfl, hcheck⟩⟩

theorem Settles.of_settle_eq {outcome : Option Value}
    (h : s.settle decorator (supplied? raw s.name) = .ok outcome) : s.Settles raw outcome := by
  rcases s.settle_cases raw decorator with ⟨outcome', hsettle, hsettles⟩ | ⟨problem, hsettle, -⟩
  · obtain rfl := Except.ok.inj (hsettle.symm.trans h)
    exact hsettles
  · cases hsettle.symm.trans h

theorem settles_iff (decorator : String) {outcome : Option Value} :
    s.Settles raw outcome ↔ s.settle decorator (supplied? raw s.name) = .ok outcome :=
  ⟨fun h => h.settle_eq decorator, .of_settle_eq⟩

/-- A consistent parameter accepts its default. -/
theorem exists_check_default {owner : String} (hs : s.checkConsistent owner = .ok ()) {j : Json}
    (hj : s.default = some j) : ∃ v, s.shape.check j = .ok v := by
  obtain ⟨-, v, hv⟩ := consistent_iff.mp hs
  rw [defaultValue, hj] at hv
  simp only [validate] at hv
  cases hvalid : s.shape.check j with
  | ok v => exact ⟨v, rfl⟩
  | error v => rw [hvalid] at hv; cases hv

/-- Where a consistent parameter does not settle, the fault lies with what is supplied for
it. -/
theorem Fails.of_settle_eq {owner : String} (hs : s.checkConsistent owner = .ok ())
    {e : ParameterError} (h : s.settle decorator (supplied? raw s.name) = .error e) :
    e.decorator = decorator ∧ e.parameter = s.name ∧ s.Fails raw e.problem := by
  rcases s.settle_cases raw decorator with ⟨outcome, hsettle, -⟩ | ⟨problem, hsettle, hfails⟩
  · cases hsettle.symm.trans h
  · obtain rfl := Except.error.inj (hsettle.symm.trans h)
    rcases hfails with hfails | ⟨j, v, hdefault, hinvalid⟩
    · exact ⟨rfl, rfl, hfails⟩
    · obtain ⟨w, hvalid⟩ := exists_check_default hs hdefault
      cases hvalid.symm.trans hinvalid

/-- The parameter is bound to something, or can be left out. -/
def Settled (s : Schema) (raw : Json.Members) : Prop := ∃ outcome, s.Settles raw outcome

/-- What settles is bound to something where a value is supplied, or else there is a
default. -/
theorem Settled.exists_value_iff (h : s.Settled raw) :
    (∃ v, s.Settles raw (some v)) ↔
      (∃ j, raw.lookup s.name = some j ∧ j ≠ .null)
        ∨ Absent raw s.name ∧ s.default.isSome = true := by
  obtain ⟨outcome, h⟩ := h
  cases h with
  | supplied hsupplied hnull hvalid =>
      exact iff_of_true ⟨_, .supplied hsupplied hnull hvalid⟩ (Or.inl ⟨_, hsupplied, hnull⟩)
  | default habsent hdefault hvalid =>
      exact iff_of_true ⟨_, .default habsent hdefault hvalid⟩
        (Or.inr ⟨habsent, by rw [hdefault]; rfl⟩)
  | omitted habsent hoptional hdefault =>
      have hnone := supplied?_eq_none_iff.mpr habsent
      refine iff_of_false ?_ ?_
      · rintro ⟨v, ⟨hsupplied, hnull, -⟩ | ⟨-, hdefault', -⟩⟩
        · cases hnone.symm.trans (supplied?_eq_some_iff.mpr ⟨hsupplied, hnull⟩)
        · cases hdefault.symm.trans hdefault'
      · rintro (⟨j, hsupplied⟩ | ⟨-, hsome⟩)
        · cases hnone.symm.trans (supplied?_eq_some_iff.mpr hsupplied)
        · rw [hdefault] at hsome
          cases hsome

instance (s : Schema) (raw : Json.Members) : Decidable (s.Settled raw) :=
  match h : s.settle "" (supplied? raw s.name) with
  | .ok outcome => .isTrue ⟨outcome, .of_settle_eq h⟩
  | .error _ => .isFalse fun ⟨_, hsettles⟩ => by cases (hsettles.settle_eq "").symm.trans h

end Schema

/-! ## All parameters -/

section

variable {decorator : String} {schemas : List Schema}

theorem declaredErrors_nil_iff_settled :
    declaredErrors decorator schemas raw = [] ↔ ∀ s ∈ schemas, s.Settled raw := by
  rw [declaredErrors, List.filterMap_eq_nil_iff]
  refine forall₂_congr fun s _ => ?_
  simp only [Schema.Settled, s.settles_iff decorator]
  cases s.settle decorator (supplied? raw s.name) <;> simp

theorem undeclared_eq_nil_iff :
    undeclared schemas raw = [] ↔
      ∀ name ∈ raw.map Prod.fst, ∃ s ∈ schemas, s.name = name := by
  rw [undeclared, List.filter_eq_nil_iff]
  refine forall₂_congr fun name _ => ?_
  simp

/-- The errors of declared parameters are those of the parameters that do not settle. -/
theorem forall₂_declaredErrors {owner : String} :
    ∀ {schemas : List Schema}, (∀ s ∈ schemas, s.checkConsistent owner = .ok ()) →
      List.Forall₂
        (fun s e => e.decorator = decorator ∧ e.parameter = s.name ∧ s.Fails raw e.problem)
        (schemas.filter fun s => ¬ s.Settled raw) (declaredErrors decorator schemas raw)
  | [], _ => .nil
  | s :: rest, h => by
      obtain ⟨hs, hrest⟩ := List.forall_mem_cons.mp h
      have ih := forall₂_declaredErrors hrest
      unfold declaredErrors at ih ⊢
      cases hsettle : s.settle decorator (supplied? raw s.name) with
      | ok outcome =>
          have hsettled : s.Settled raw := ⟨outcome, .of_settle_eq hsettle⟩
          rw [List.filter_cons_of_neg (by simpa using hsettled),
            List.filterMap_cons_none (by rw [hsettle])]
          exact ih
      | error e =>
          have hnot : ¬ s.Settled raw := fun ⟨outcome, hsettles⟩ => by
            cases (hsettles.settle_eq decorator).symm.trans hsettle
          rw [List.filter_cons_of_pos (by simpa using hnot),
            List.filterMap_cons_some (by rw [hsettle])]
          exact .cons (Schema.Fails.of_settle_eq hs hsettle) ih

theorem mem_declaredValues {name : String} {v : Value} :
    (name, v) ∈ declaredValues decorator schemas raw ↔
      ∃ s ∈ schemas, s.name = name ∧ s.Settles raw (some v) := by
  rw [declaredValues, List.mem_filterMap]
  refine exists_congr fun s => and_congr_right fun _ => ?_
  rw [s.settles_iff decorator]
  split <;> simp_all

theorem nodup_declaredValues (h : (schemas.map Schema.name).Nodup) :
    ((declaredValues decorator schemas raw).map Prod.fst).Nodup := by
  have hentries : declaredValues decorator schemas raw
      = Schema.entries (fun s => (s.settle decorator (supplied? raw s.name)).toOption.join)
          schemas := by
    refine List.filterMap_congr fun s _ => ?_
    beta_reduce
    cases s.settle decorator (supplied? raw s.name) with
    | error e => rfl
    | ok outcome => cases outcome <;> rfl
  exact hentries ▸ Schema.nodup_entries h

/-- Under each name there is what its parameter settles to. -/
theorem get?_declaredValues (h : (schemas.map Schema.name).Nodup) {name : String} {v : Value} :
    Table.get? (.ofList (declaredValues decorator schemas raw)) name = some v ↔
      ∃ s ∈ schemas, s.name = name ∧ s.Settles raw (some v) := by
  have hnodup := @nodup_declaredValues raw decorator schemas h
  rw [Table.get?_ofList hnodup, Table.lookup_eq_some_iff_mem hnodup, mem_declaredValues]

end

/-- What the parameters are bound to: the values that are supplied, and the defaults of
parameters for which none is. -/
structure Binds (schemas : List Schema) (raw : Json.Members) (b : Bindings) : Prop where
  keys : ∀ name, name ∈ b.keys ↔
    (∃ j, raw.lookup name = some j ∧ j ≠ .null)
      ∨ Absent raw name ∧ ∃ s ∈ schemas, s.name = name ∧ s.default.isSome = true
  values : ∀ name v, b.get? name = some v ↔
    ∃ s ∈ schemas, s.name = name ∧ s.Settles raw (some v)

/-- The problems with what is supplied: one for each declared parameter that does not settle,
in declared order, then one for each name that is not declared, in given order. -/
structure Reports (decorator : String) (schemas : List Schema) (raw : Json.Members)
    (es : ParameterErrors) : Prop where
  attributed : es.decorator = decorator
  errors : ∃ declared,
    List.Forall₂
        (fun s e => e.decorator = decorator ∧ e.parameter = s.name ∧ s.Fails raw e.problem)
        (schemas.filter fun s => ¬ s.Settled raw) declared
      ∧ es.errors = declared
          ++ ((raw.map Prod.fst).filter fun name => ∀ s ∈ schemas, s.name ≠ name).map
              fun name => ⟨decorator, name, .unknown⟩
  distinct : (es.errors.map ParameterError.parameter).Nodup

namespace Definition

variable {d : Definition} {decorator : String}

theorem exists_bindAll_iff :
    (∃ b, bindAll decorator d.parameters raw = .ok b) ↔
      (∀ s ∈ d.parameters, s.Settled raw)
        ∧ ∀ name ∈ raw.map Prod.fst, ∃ s ∈ d.parameters, s.name = name := by
  simp only [bindAll_eq_ok_iff, declaredErrors_nil_iff_settled, undeclared_eq_nil_iff]
  exact ⟨fun ⟨_, hsettled, hknown, _⟩ => ⟨hsettled, hknown⟩,
    fun ⟨hsettled, hknown⟩ => ⟨_, hsettled, hknown, rfl⟩⟩

theorem binds_of_bindAll {b : Bindings} (hraw : (raw.map Prod.fst).Nodup)
    (h : bindAll decorator d.parameters raw = .ok b) : Binds d.parameters raw b := by
  obtain ⟨hsettled, hknown⟩ := exists_bindAll_iff.mp ⟨b, h⟩
  obtain ⟨-, -, rfl⟩ := bindAll_eq_ok_iff.mp h
  refine ⟨fun name => ?_, fun name v => get?_declaredValues d.names_nodup⟩
  simp only [Table.mem_keys, get?_declaredValues d.names_nodup]
  constructor
  · rintro ⟨v, s, hs, rfl, hsettles⟩
    rcases (hsettled s hs).exists_value_iff.mp ⟨v, hsettles⟩ with hsupplied | ⟨habsent, hdefault⟩
    · exact Or.inl hsupplied
    · exact Or.inr ⟨habsent, s, hs, rfl, hdefault⟩
  · intro hkey
    obtain ⟨s, hs, rfl⟩ : ∃ s ∈ d.parameters, s.name = name := by
      rcases hkey with ⟨j, hsupplied, -⟩ | ⟨-, s, hs, hname, -⟩
      · exact hknown name (List.mem_map_of_mem ((Table.lookup_eq_some_iff_mem hraw).mp hsupplied))
      · exact ⟨s, hs, hname⟩
    have hvalue : ∃ v, s.Settles raw (some v) := (hsettled s hs).exists_value_iff.mpr <|
      hkey.imp_right fun ⟨habsent, t, ht, hname, hdefault⟩ => ⟨habsent, by
        rwa [← List.inj_on_of_nodup_map d.names_nodup ht hs hname]⟩
    obtain ⟨v, hsettles⟩ := hvalue
    exact ⟨v, s, hs, rfl, hsettles⟩

/-- The order in which values are supplied does not matter. -/
theorem bindAll_perm {b : Bindings} (hraw : (raw.map Prod.fst).Nodup)
    (h : bindAll decorator d.parameters raw = .ok b) {raw' : Json.Members}
    (hperm : raw'.Perm raw) : bindAll decorator d.parameters raw' = .ok b := by
  obtain ⟨hdeclared, hundeclared, hb⟩ := bindAll_eq_ok_iff.mp h
  have hsupplied : supplied? raw' = supplied? raw := supplied?_perm hperm hraw
  have hknown : undeclared d.parameters raw' = [] := by
    rw [undeclared_eq_nil_iff] at hundeclared ⊢
    exact fun name hname => hundeclared name ((hperm.map Prod.fst).subset hname)
  refine bindAll_eq_ok_iff.mpr ⟨?_, hknown, ?_⟩
  · rwa [declaredErrors, hsupplied]
  · rwa [declaredValues, hsupplied]

theorem reports_of_bindAll {es : ParameterErrors} (hraw : (raw.map Prod.fst).Nodup)
    (h : bindAll decorator d.parameters raw = .error es) :
    Reports decorator d.parameters raw es := by
  obtain ⟨hdecorator, herrors⟩ := bindAll_eq_error_iff.mp h
  have hconsistent := (declared_of_parametersFault? d.declared).2
  have hdeclared := @forall₂_declaredErrors raw decorator _ _ fun s hs => (hconsistent s hs).2.2
  have hundeclared : undeclared d.parameters raw
      = (raw.map Prod.fst).filter fun name => ∀ s ∈ d.parameters, s.name ≠ name := by
    refine List.filter_congr fun name _ => ?_
    rw [Bool.eq_iff_iff]
    simp
  refine ⟨hdecorator, ⟨_, hdeclared, hundeclared ▸ herrors⟩, ?_⟩
  -- the names of the errors are names of parameters, followed by other names
  have hnames : (declaredErrors decorator d.parameters raw).map ParameterError.parameter
      = (d.parameters.filter fun s => ¬ s.Settled raw).map Schema.name := by
    have hsame := hdeclared.imp fun _ _ h => h.2.1.symm
    rw [← List.forall₂_map_right_iff, ← List.forall₂_map_left_iff, List.forall₂_eq_eq_eq] at hsame
    exact hsame.symm
  have hothers : ((undeclared d.parameters raw).map fun name =>
      (⟨decorator, name, .unknown⟩ : ParameterError)).map ParameterError.parameter
        = undeclared d.parameters raw := by
    rw [List.map_map]
    exact List.map_id _
  rw [herrors, List.map_append, hnames, hothers]
  have hfailing : List.Sublist ((d.parameters.filter fun s => ¬ s.Settled raw).map Schema.name)
      (d.parameters.map Schema.name) := List.filter_sublist.map _
  refine List.nodup_append.mpr ⟨hfailing.nodup d.names_nodup, hraw.filter _, ?_⟩
  rintro name hname other hother rfl
  obtain ⟨s, hs, rfl⟩ := List.mem_map.mp (hfailing.subset hname)
  exact (mem_undeclared.mp hother).2 s hs rfl

/-- **Binding reports every problem, and only the problems.** It succeeds exactly when each
declared parameter settles and nothing else is supplied, then with what they settle to in
whatever order it was supplied, and otherwise reports each problem once, in order. -/
theorem bindAll_reports (d : Definition) (hraw : (raw.map Prod.fst).Nodup) (decorator : String) :
    ((∃ b, bindAll decorator d.parameters raw = .ok b) ↔
        (∀ s ∈ d.parameters, s.Settled raw)
          ∧ ∀ name ∈ raw.map Prod.fst, ∃ s ∈ d.parameters, s.name = name)
      ∧ (∀ b, bindAll decorator d.parameters raw = .ok b →
          Binds d.parameters raw b
            ∧ ∀ raw', raw'.Perm raw → bindAll decorator d.parameters raw' = .ok b)
      ∧ ∀ es, bindAll decorator d.parameters raw = .error es →
          Reports decorator d.parameters raw es :=
  ⟨exists_bindAll_iff, fun _ h => ⟨binds_of_bindAll hraw h, fun _ => bindAll_perm hraw h⟩,
    fun _ => reports_of_bindAll hraw⟩

/-- A decorator with a choice that has a default, and one parameter that is required. -/
def reasoning : Definition where
  name := ⟨"Reasoning", rfl⟩
  version := .one
  category := "method"
  description := none
  parameters :=
    [{ name := "depth", shape := .simple .enum { allowed := ["basic", "comprehensive"] },
       default := some (.str "basic") },
     { name := "topic", shape := .simple .text {}, required := true },
     { name := "steps", shape := .simple .number { range := ⟨some (.finite .zero), none⟩ } },
     { name := "verbose", shape := .simple .boolean {} }]
  template := {}
  compatibility := {}
  declared := by decide +kernel
  mapped := rfl
  consistent := ⟨rfl, rfl, rfl⟩

/-- Three parameters and a name that is none fail together; a topic alone is enough. -/
theorem bindAll_reports_reasoning :
    ∃ bad good : Json.Members,
      (bad.map Prod.fst).Nodup ∧ (good.map Prod.fst).Nodup
        ∧ (∃ es, bindAll "Reasoning" reasoning.parameters bad = .error es
            ∧ es.errors.map ParameterError.parameter = ["depth", "topic", "steps", "extra"]
            ∧ Reports "Reasoning" reasoning.parameters bad es)
        ∧ ∃ b, bindAll "Reasoning" reasoning.parameters good = .ok b
            ∧ b.keys = ["depth", "topic"] ∧ Binds reasoning.parameters good b := by
  let bad : Json.Members :=
    [("extra", .bool true), ("steps", .num (.whole (-4) ⟨by decide, by decide⟩)),
     ("depth", .str "deep")]
  let good : Json.Members := [("verbose", .null), ("topic", .str "cells")]
  have hbad : (bad.map Prod.fst).Nodup := by decide
  have hgood : (good.map Prod.fst).Nodup := by decide
  obtain ⟨es, hes, hnames⟩ : ∃ es, bindAll "Reasoning" reasoning.parameters bad = .error es
      ∧ es.errors.map ParameterError.parameter = ["depth", "topic", "steps", "extra"] :=
    ⟨_, rfl, by decide +kernel⟩
  obtain ⟨b, hb, hkeys⟩ : ∃ b, bindAll "Reasoning" reasoning.parameters good = .ok b
      ∧ b.keys = ["depth", "topic"] := ⟨_, rfl, by decide +kernel⟩
  exact ⟨bad, good, hbad, hgood, ⟨es, hes, hnames, (bindAll_reports reasoning hbad _).2.2 es hes⟩,
    b, hb, hkeys, ((bindAll_reports reasoning hgood _).2.1 b hb).1⟩

end Definition

end Decorate
