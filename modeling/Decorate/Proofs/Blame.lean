import Decorate.Proofs.Conformance

/-!
# Who is to blame

A violation can put the blame on the value that was supplied, or on the
declaration that it was checked against: a pattern that does not
compile, found out too late. `never_blamed` says that a definition is
beyond the second kind. What its construction has checked,
`Shape.defect?` over nested shapes and the default against its own
shape, covers all that checking a value relies on
(`Shape.not_blamesShape`), so where nothing is supplied the only thing
that can go wrong is that a parameter is missing (`Schema.settle_none`).

`bind_eq_error_iff` says what binding reports when it fails.
-/

namespace Decorate

/-! ## Blame -/

/-- Holds of a violation, at any depth, that no other value would have avoided. -/
def Violation.blamesShape : Violation → Bool
  | badPattern _ => true
  | item _ v => v.blamesShape
  | _ => false

/-- Holds of the problems that lie with the declaration of a parameter. -/
def Problem.blamesDeclaration : Problem → Bool
  | defect _ => true
  | violation v => v.blamesShape
  | missing | unknown => false

/-! ## Shapes without a defect -/

theorem Limits.isSome_of_patternDefect? {l : Limits} (h : l.patternDefect? = none) {text : String}
    (htext : l.pattern = some text) : (Pattern.ofString? text).isSome = true := by
  rw [patternDefect?, htext, Option.bind_some] at h
  split at h
  · cases h
  · rename_i hsome
    exact Option.isSome_iff_ne_none.mpr fun hnone => hsome (Option.isNone_iff_eq_none.mpr hnone)

theorem Limits.patternDefect?_of_defect? {l : Limits} {kind : Kind} (h : l.defect? kind = none) :
    l.patternDefect? = none := by
  unfold defect? at h
  split at h
  · cases h
  · simp only [Option.orElse_eq_orElse, Option.orElse_eq_or, Option.or_eq_none_iff] at h
    exact h.2.2

theorem not_blamesShape_of_checkText {l : Limits} (hl : l.patternDefect? = none) {s : String}
    {v : Violation} (h : checkText l s = .error v) : v.blamesShape = false := by
  unfold checkText at h
  split at h
  · obtain rfl := Except.error.inj h
    rfl
  · split at h
    · cases h
    · rename_i text htext
      have hsome := l.isSome_of_patternDefect? hl htext
      split at h
      · rename_i hnone
        rw [hnone] at hsome
        cases hsome
      · split at h
        · cases h
        · obtain rfl := Except.error.inj h
          rfl

theorem not_blamesShape_of_checkUntyped {j : Json} {v : Violation}
    (h : checkUntyped j = .error v) : v.blamesShape = false := by
  unfold checkUntyped at h
  split at h
  · cases h
  · obtain rfl := Except.error.inj h
    rfl

theorem not_blamesShape_of_checkKind {kind : Kind} {l : Limits}
    {item : Json → Except Violation Value} (hl : l.defect? kind = none)
    (hitem : kind = .list → ∀ {j : Json} {v : Violation}, item j = .error v →
      v.blamesShape = false)
    {j : Json} {v : Violation} (h : checkKind kind l item j = .error v) :
    v.blamesShape = false := by
  unfold checkKind at h
  split at h
  · cases h
  · split at h
    · cases h
    · obtain rfl := Except.error.inj h
      rfl
  · split at h
    · cases h
    · obtain rfl := Except.error.inj h
      rfl
  · exact not_blamesShape_of_checkText (l.patternDefect?_of_defect? hl) h
  · rename_i items
    split at h
    · cases hitems : checkItems item 0 items with
      | ok vs => rw [hitems] at h; cases h
      | error e =>
          rw [hitems] at h
          obtain rfl : e = v := Except.error.inj h
          obtain ⟨before, j, after, w, -, -, hj, rfl⟩ := (checkItems_eq_error_iff items).mp hitems
          show w.blamesShape = false
          exact hitem rfl hj
    · obtain rfl := Except.error.inj h
      rfl
  · obtain rfl := Except.error.inj h
    rfl

/-- A shape without a defect is never to blame, whatever is checked against it. -/
theorem Shape.not_blamesShape :
    (s : Shape) → s.defect? = none → ∀ {j : Json} {v : Violation}, s.check j = .error v →
      v.blamesShape = false
  | simple kind limits, hs, _, _, h =>
      not_blamesShape_of_checkKind hs (fun _ => not_blamesShape_of_checkUntyped) h
  | withItems kind limits items, hs, _, _, h => by
      simp only [defect?, Option.orElse_eq_orElse, Option.orElse_eq_or, Option.or_eq_none_iff] at hs
      exact not_blamesShape_of_checkKind hs.1 (fun _ => items.not_blamesShape hs.2.2) h

/-- With a defect the shape may well be to blame, here for the items of its items. -/
example :
    let bad : Shape := .withItems .list {} (.simple .text { pattern := some "(" })
    bad.check (.arr [.str "a"]) = .error (.item 0 (.badPattern "(")) := rfl

/-! ## Consistent parameters -/

namespace Schema

/-- Holds of a parameter that must be supplied. -/
def isIndispensable (s : Schema) : Bool := s.required && s.default.isNone

variable {s : Schema} {decorator : String}

theorem consistent_iff :
    s.checkConsistent decorator = .ok () ↔
      s.shape.defect? = none ∧ ∃ v, s.defaultValue decorator = .ok v := by
  unfold checkConsistent
  cases s.shape.defect? with
  | some d => simp
  | none => cases s.defaultValue decorator <;> simp [Except.map]

/-- Without a value, a consistent parameter fails only when it is indispensable. -/
theorem settle_none (hs : s.checkConsistent decorator = .ok ()) :
    (s.isIndispensable = true ∧ s.settle decorator none = .error ⟨decorator, s.name, .missing⟩)
      ∨ (s.isIndispensable = false ∧ ∃ v, s.settle decorator none = .ok v) := by
  obtain ⟨-, v, hv⟩ := consistent_iff.mp hs
  unfold settle isIndispensable
  rw [hv]
  cases hd : s.default with
  | none =>
      obtain rfl : none = v := by
        rw [defaultValue, hd] at hv
        exact Except.ok.inj hv
      cases s.required <;> simp
  | some j =>
      obtain ⟨w, rfl⟩ : ∃ w, v = some w := by
        rw [defaultValue, hd] at hv
        cases hj : s.validate decorator j with
        | error e => simp [hj, Except.map] at hv
        | ok w => exact ⟨w, by simpa [hj, Except.map, eq_comm] using hv⟩
      simp

/-- What a consistent parameter fails for is not its own fault. -/
theorem error_of_settle (hs : s.checkConsistent decorator = .ok ()) {supplied : Option Json}
    {e : ParameterError} (h : s.settle decorator supplied = .error e) :
    e.parameter = s.name ∧ e.problem.blamesDeclaration = false
      ∧ (supplied = none → e.problem = .missing) := by
  cases supplied with
  | none =>
      rcases settle_none hs with ⟨-, hmissing⟩ | ⟨-, v, hv⟩
      · obtain rfl := Except.error.inj (hmissing.symm.trans h)
        exact ⟨rfl, rfl, fun _ => rfl⟩
      · cases hv.symm.trans h
  | some j =>
      unfold settle validate at h
      cases hj : s.shape.check j with
      | ok w => simp [hj, Except.map] at h
      | error v =>
          obtain rfl : ⟨decorator, s.name, .violation v⟩ = e := by
            simpa [hj, Except.map] using h
          exact ⟨rfl, s.shape.not_blamesShape (consistent_iff.mp hs).1 hj, nofun⟩

end Schema

/-! ## Failures of binding -/

/-- Nothing is supplied for the parameter, or null. -/
def Absent (raw : Json.Members) (name : String) : Prop :=
  raw.lookup name = none ∨ raw.lookup name = some .null

theorem supplied?_eq_none_iff {raw : Json.Members} {name : String} :
    supplied? raw name = none ↔ Absent raw name := by
  unfold supplied? Absent
  cases raw.lookup name with
  | none => simp
  | some j => cases j <;> simp [Json.isNull]

theorem mem_declaredErrors {decorator : String} {schemas : List Schema} {raw : Json.Members}
    {e : ParameterError} :
    e ∈ declaredErrors decorator schemas raw ↔
      ∃ s ∈ schemas, s.settle decorator (supplied? raw s.name) = .error e := by
  unfold declaredErrors
  rw [List.mem_filterMap]
  refine exists_congr fun s => and_congr_right fun _ => ?_
  cases s.settle decorator (supplied? raw s.name) <;> simp

theorem mem_undeclared {schemas : List Schema} {raw : Json.Members} {name : String} :
    name ∈ undeclared schemas raw ↔
      name ∈ raw.map Prod.fst ∧ ∀ s ∈ schemas, s.name ≠ name := by
  unfold undeclared
  rw [List.mem_filter, Bool.not_eq_true', List.any_eq_false]
  simp

theorem bindAll_eq_error_iff {decorator : String} {schemas : List Schema} {raw : Json.Members}
    {es : ParameterErrors} :
    bindAll decorator schemas raw = .error es ↔
      es.decorator = decorator
        ∧ es.errors = declaredErrors decorator schemas raw
            ++ (undeclared schemas raw).map fun name => ⟨decorator, name, .unknown⟩ := by
  unfold bindAll
  simp only
  split
  · rename_i h
    refine ⟨fun h' => ?_, fun h' => absurd (h'.2.trans h) es.nonempty⟩
    cases h'
  · rename_i h
    obtain ⟨decorator, errors, hne⟩ := es
    simp [eq_comm]

namespace Instance

variable {d : Definition} {raw : Json.Members} {es : ParameterErrors}

/-- The problems with what is supplied to a definition. -/
def problems (d : Definition) (raw : Json.Members) : List ParameterError :=
  declaredErrors d.name.text d.parameters raw
    ++ (undeclared d.parameters raw).map fun name => ⟨d.name.text, name, .unknown⟩

/-- Binding fails with exactly the problems that there are. -/
theorem bind_eq_error_iff :
    bind d raw = .error es ↔ es.decorator = d.name.text ∧ es.errors = problems d raw := by
  rw [problems, ← bindAll_eq_error_iff, bind]
  cases bindAll d.name.text d.parameters raw <;> simp [Except.map]

theorem exists_bind_eq_error_iff : (∃ es, bind d raw = .error es) ↔ problems d raw ≠ [] := by
  simp only [bind_eq_error_iff]
  constructor
  · rintro ⟨es, -, h⟩
    exact h ▸ es.nonempty
  · intro h
    exact ⟨⟨d.name.text, problems d raw, h⟩, rfl, rfl⟩

/-- Where nothing is supplied, the problems are the indispensable parameters. -/
theorem problems_nil (d : Definition) :
    problems d [] = (d.parameters.filter Schema.isIndispensable).map fun s =>
      ⟨d.name.text, s.name, .missing⟩ := by
  have hconsistent := (declared_of_parametersFault? d.declared).2
  have hnone : ∀ name, supplied? [] name = none := fun _ => rfl
  unfold problems declaredErrors undeclared
  rw [List.map_nil, List.filter_nil, List.map_nil, List.append_nil, ← List.filterMap_eq_map,
    List.filterMap_filter]
  refine List.filterMap_congr fun s hs => ?_
  rw [hnone]
  rcases Schema.settle_none (hconsistent s hs).2.2 with ⟨hi, hmissing⟩ | ⟨hi, v, hv⟩
  · rw [hmissing, hi]
    rfl
  · rw [hv, hi]
    rfl

end Instance

/-- **A definition never fails for reasons of its own.** No problem that binding reports
lies with a declaration, a parameter for which nothing is supplied can only be missing, and
binding with nothing supplied reports the indispensable parameters, each once, in declared
order. -/
theorem Definition.never_blamed (d : Definition) (raw : Json.Members) :
    (∀ es, Instance.bind d raw = .error es → ∀ e ∈ es.errors,
        e.problem.blamesDeclaration = false
          ∧ ∀ s ∈ d.parameters, s.name = e.parameter → Absent raw s.name →
              e.problem = .missing)
      ∧ ((∃ es, Instance.withDefaults d = .error es) ↔
          ∃ s ∈ d.parameters, s.required = true ∧ s.default = none)
      ∧ ∀ es, Instance.withDefaults d = .error es →
          es.errors = (d.parameters.filter fun s => s.required && s.default.isNone).map
            fun s => ⟨d.name.text, s.name, .missing⟩ := by
  have hconsistent := (declared_of_parametersFault? d.declared).2
  refine ⟨fun es h e he => ?_, ?_, fun es h => ?_⟩
  · rw [(Instance.bind_eq_error_iff.mp h).2, Instance.problems, List.mem_append] at he
    rcases he with he | he
    · obtain ⟨s, hs, hsettle⟩ := mem_declaredErrors.mp he
      obtain ⟨hname, hblame, hmissing⟩ := Schema.error_of_settle (hconsistent s hs).2.2 hsettle
      refine ⟨hblame, fun t _ ht habsent => hmissing (supplied?_eq_none_iff.mpr ?_)⟩
      rwa [← hname, ← ht]
    · obtain ⟨name, hname, rfl⟩ := List.mem_map.mp he
      exact ⟨rfl, fun t ht htname => absurd htname ((mem_undeclared.mp hname).2 t ht)⟩
  · rw [Instance.withDefaults, Instance.exists_bind_eq_error_iff, Instance.problems_nil, ne_eq,
      List.map_eq_nil_iff, List.filter_eq_nil_iff]
    simp [Schema.isIndispensable]
  · rw [(Instance.bind_eq_error_iff.mp h).2, Instance.problems_nil]
    rfl

end Decorate
