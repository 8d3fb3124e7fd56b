import Decorate.Plan.Basic
import Decorate.Proofs.Collection

/-!
# Gating

A request whose standard version and steps are known is planned exactly
when it keeps five rules (`Admissible`), and otherwise rejected for the
first of them that it breaks (`FirstViolation`). The rules are stated
without the loops that check them: conflicts by pairs of places,
the others by the definitions that take part and by counting.

Each check decides its rule (`Decides`), and checks that run one after
the other decide all their rules with the earlier ones taking
precedence (`Decides.andThen`). `ofRequest_decided` puts them together.
-/

namespace Decorate

namespace Plan

/-! ## Rules -/

/-- The steps have different names, no `Priority` has ordered them both, and one of them
declares a conflict with the other. -/
def Conflicting (s t : Step) : Prop :=
  s.name ≠ t.name ∧ (¬ ∃ g, s.priorityGroup = some g ∧ t.priorityGroup = some g)
    ∧ ((∃ n ∈ s.definition.compatibility.conflicts.toList, n.text = t.name)
      ∨ ∃ n ∈ t.definition.compatibility.conflicts.toList, n.text = s.name)

/-- Conflicting steps stand in these two places, the first before the second. -/
def Offends (steps : List Step) (p q : Nat) : Prop :=
  p < q ∧ ∃ s t, steps[p]? = some s ∧ steps[q]? = some t ∧ Conflicting s t

/-- The lexicographically first pair of places with conflicting steps. -/
def FirstOffence (steps : List Step) (p q : Nat) : Prop :=
  Offends steps p q ∧ ∀ p' q', Offends steps p' q' → p < p' ∨ p = p' ∧ q ≤ q'

/-- Every decorator that the definition requires is requested or scheduled. -/
def Complete (request : List Instance) (steps : List Step) (d : Definition) : Prop :=
  ∀ n ∈ d.compatibility.requires.toList,
    (∃ i ∈ request, i.name = n.text) ∨ ∃ s ∈ steps, s.name = n.text

/-- The definition supports the configured model, if there is one and it counts. -/
def SupportsTarget (config : Config) (d : Definition) : Prop :=
  ∀ model, config.model = some model → config.strict = true →
    d.compatibility.supportsModel model = true

/-- The step takes the place of the prompt. -/
def Replaces (s : Step) : Prop := s.placement = .override ∨ s.placement = .replace

instance (s : Step) : Decidable (Replaces s) := inferInstanceAs (Decidable (_ ∨ _))

structure Admissible (config : Config) (standard : Version) (request : List Instance)
    (steps : List Step) : Prop where
  compatible : ∀ p q, ¬ Offends steps p q
  complete : ∀ d ∈ involved request steps, Complete request steps d
  standard : ∀ d ∈ involved request steps, d.compatibility.standard.contains standard = true
  model : ∀ d ∈ involved request steps, SupportsTarget config d
  single : steps.countP (fun s => Replaces s) ≤ 1

/-- The first definition that lacks the property. -/
def FirstLacking (p : Definition → Prop) (ds : List Definition) (d : Definition) : Prop :=
  ∃ before after, ds = before ++ d :: after ∧ (∀ e ∈ before, p e) ∧ ¬ p d

/-- The error is that of the first rule that is broken, at the first place where it is. -/
inductive FirstViolation (config : Config) (standard : Version) (request : List Instance)
    (steps : List Step) : PlanError → Prop where
  | conflict {p q : Nat} {s t : Step} :
      FirstOffence steps p q → steps[p]? = some s → steps[q]? = some t →
      FirstViolation config standard request steps (.conflict s.name t.name)
  | requirement {d : Definition} :
      (∀ p q, ¬ Offends steps p q) →
      FirstLacking (Complete request steps) (involved request steps) d →
      FirstViolation config standard request steps
        (.missingRequired d.name.text (missingNames (presentNames request steps) d))
  | standard {d : Definition} :
      (∀ p q, ¬ Offends steps p q) →
      (∀ d ∈ involved request steps, Complete request steps d) →
      FirstLacking (fun d => d.compatibility.standard.contains standard = true)
        (involved request steps) d →
      FirstViolation config standard request steps (.unsupportedStandard d.name.text standard)
  | model {d : Definition} {model : String} :
      (∀ p q, ¬ Offends steps p q) →
      (∀ d ∈ involved request steps, Complete request steps d) →
      (∀ d ∈ involved request steps, d.compatibility.standard.contains standard = true) →
      config.model = some model →
      FirstLacking (SupportsTarget config) (involved request steps) d →
      FirstViolation config standard request steps (.unsupportedModel d.name.text model)
  | replacement {before between after : List Step} {s t : Step} :
      (∀ p q, ¬ Offends steps p q) →
      (∀ d ∈ involved request steps, Complete request steps d) →
      (∀ d ∈ involved request steps, d.compatibility.standard.contains standard = true) →
      (∀ d ∈ involved request steps, SupportsTarget config d) →
      steps = before ++ s :: (between ++ t :: after) →
      (∀ u ∈ before ++ between, ¬ Replaces u) → Replaces s → Replaces t →
      FirstViolation config standard request steps (.conflictingReplace s.name t.name)

/-! ## Decisions -/

/-- The check accepts exactly under the condition, and refuses exactly with the errors
described. -/
structure Decides (check : Except PlanError Unit) (rule : Prop) (fault : PlanError → Prop) :
    Prop where
  accepts : check = .ok () ↔ rule
  refuses : ∀ e, check = .error e ↔ fault e

/-- Of two checks in a row the first has precedence. -/
theorem Decides.andThen {first second : Except PlanError Unit} {rule₁ rule₂ : Prop}
    {fault₁ fault₂ : PlanError → Prop} (h₁ : Decides first rule₁ fault₁)
    (h₂ : Decides second rule₂ fault₂) :
    Decides (first >>= fun _ => second) (rule₁ ∧ rule₂)
      (fun e => fault₁ e ∨ rule₁ ∧ fault₂ e) := by
  cases first with
  | error e =>
      have hrule : ¬ rule₁ := fun h => nomatch h₁.accepts.mpr h
      refine ⟨⟨(fun h => nomatch h), fun h => absurd h.1 hrule⟩, fun e' => ?_⟩
      rw [← h₁.refuses]
      exact ⟨Or.inl, fun h => h.elim id fun h => absurd h.1 hrule⟩
  | ok u =>
      have hrule : rule₁ := h₁.accepts.mp rfl
      have hfault : ∀ e, ¬ fault₁ e := fun e h => nomatch (h₁.refuses e).mpr h
      refine ⟨h₂.accepts.trans (and_iff_right hrule).symm, fun e => ?_⟩
      refine (h₂.refuses e).trans ⟨fun h => Or.inr ⟨hrule, h⟩, ?_⟩
      exact fun h => h.elim (fun h => absurd h (hfault e)) And.right

/-- A search for a definition that lacks a property. -/
theorem find?_eq_some_iff_firstLacking {p : Definition → Bool} {ds : List Definition}
    {d : Definition} :
    ds.find? (fun d => !p d) = some d ↔ FirstLacking (p · = true) ds d := by
  rw [List.find?_eq_some_iff_append]
  constructor
  · rintro ⟨hd, before, after, hsplit, hbefore⟩
    exact ⟨before, after, hsplit, fun e he => by simpa using hbefore e he, by simpa using hd⟩
  · rintro ⟨before, after, hsplit, hbefore, hd⟩
    exact ⟨by simpa using hd, before, after, hsplit, fun e he => by simpa using hbefore e he⟩

theorem find?_eq_none_iff_all {p : Definition → Bool} {ds : List Definition} :
    ds.find? (fun d => !p d) = none ↔ ∀ d ∈ ds, p d = true := by
  simp

theorem FirstLacking.not_all {p : Definition → Prop} {ds : List Definition} {d : Definition}
    (h : FirstLacking p ds d) : ¬ ∀ e ∈ ds, p e := by
  obtain ⟨before, after, rfl, -, hd⟩ := h
  exact fun hall => hd (hall d (List.mem_append_right _ List.mem_cons_self))

/-! ## Conflicts -/

theorem inConflict_iff {s t : Step} : inConflict s t = true ↔ Conflicting s t := by
  have hshares : s.sharesPriority t = true
      ↔ ∃ g, s.priorityGroup = some g ∧ t.priorityGroup = some g := by
    rw [Step.sharesPriority, Bool.and_eq_true, Option.isSome_iff_exists, beq_iff_eq]
    constructor
    · rintro ⟨⟨g, hg⟩, heq⟩
      exact ⟨g, hg, heq ▸ hg⟩
    · rintro ⟨g, hs, ht⟩
      exact ⟨⟨g, hs⟩, hs.trans ht.symm⟩
  simp only [inConflict, Conflicting, Bool.and_eq_true, Bool.or_eq_true, bne_iff_ne, ne_eq,
    Bool.not_eq_true', ← hshares, Bool.not_eq_true, Compatibility.conflictsWith,
    Sorted.contains_iff, and_assoc]

theorem offends_cons {s : Step} {rest : List Step} {p q : Nat} :
    Offends (s :: rest) p q ↔
      (p = 0 ∧ ∃ k t, q = k + 1 ∧ rest[k]? = some t ∧ Conflicting s t)
        ∨ ∃ p' q', p = p' + 1 ∧ q = q' + 1 ∧ Offends rest p' q' := by
  constructor
  · rintro ⟨hlt, a, b, ha, hb, hconflict⟩
    obtain ⟨k, rfl⟩ : ∃ k, q = k + 1 := ⟨q - 1, by omega⟩
    cases p with
    | zero =>
        obtain rfl := Option.some.inj ha
        exact Or.inl ⟨rfl, k, b, rfl, hb, hconflict⟩
    | succ p => exact Or.inr ⟨p, k, rfl, rfl, by omega, a, b, ha, hb, hconflict⟩
  · rintro (⟨rfl, k, t, rfl, ht, hconflict⟩ | ⟨p, q, rfl, rfl, hlt, a, b, ha, hb, hconflict⟩)
    · exact ⟨by omega, s, t, rfl, ht, hconflict⟩
    · exact ⟨by omega, a, b, ha, hb, hconflict⟩

/-- Either there is no offence, or the check names the first. -/
theorem checkConflicts_cases :
    ∀ steps : List Step,
      (checkConflicts steps = .ok () ∧ ∀ p q, ¬ Offends steps p q)
        ∨ ∃ p q s t, FirstOffence steps p q ∧ steps[p]? = some s ∧ steps[q]? = some t
            ∧ checkConflicts steps = .error (.conflict s.name t.name)
  | [] => Or.inl ⟨rfl, fun p q h => by obtain ⟨-, s, t, hs, -⟩ := h; cases hs⟩
  | s :: rest => by
      unfold checkConflicts
      cases hfind : rest.find? (inConflict s) with
      | some t =>
          obtain ⟨hconflict, before, after, hsplit, hbefore⟩ :=
            List.find?_eq_some_iff_append.mp hfind
          have ht : rest[before.length]? = some t := by
            rw [hsplit, List.getElem?_append_right (Nat.le_refl _), Nat.sub_self]
            rfl
          -- `s` stands first of all, and `t` is the first that conflicts with it
          refine Or.inr ⟨0, before.length + 1, s, t, ⟨?_, ?_⟩, rfl, ht, rfl⟩
          · exact offends_cons.mpr
              (Or.inl ⟨rfl, before.length, t, rfl, ht, inConflict_iff.mp hconflict⟩)
          · intro p' q' h
            rcases offends_cons.mp h with ⟨rfl, k, u, rfl, hu, hsu⟩ | ⟨p, q, rfl, -, -⟩
            · refine Or.inr ⟨rfl, Nat.succ_le_succ (Nat.le_of_not_lt fun hlt => ?_)⟩
              rw [hsplit, List.getElem?_append_left hlt] at hu
              have hnot := hbefore u (List.mem_of_getElem? hu)
              rw [inConflict_iff.mpr hsu] at hnot
              cases hnot
            · exact Or.inl (Nat.succ_pos p)
      | none =>
          have hfirst : ∀ k t, rest[k]? = some t → ¬ Conflicting s t := fun k t ht hst =>
            List.find?_eq_none.mp hfind t (List.mem_of_getElem? ht) (inConflict_iff.mpr hst)
          rcases checkConflicts_cases rest with ⟨hok, hnone⟩ | ⟨p, q, a, b, hpq, ha, hb, herror⟩
          · refine Or.inl ⟨hok, fun p q h => ?_⟩
            rcases offends_cons.mp h with ⟨-, k, t, -, ht, hst⟩ | ⟨p', q', -, -, h⟩
            · exact hfirst k t ht hst
            · exact hnone p' q' h
          · refine Or.inr ⟨p + 1, q + 1, a, b, ⟨?_, ?_⟩, ha, hb, herror⟩
            · exact offends_cons.mpr (Or.inr ⟨p, q, rfl, rfl, hpq.1⟩)
            · intro p' q' h
              rcases offends_cons.mp h with ⟨-, k, t, -, ht, hst⟩ | ⟨p', q', rfl, rfl, hrest⟩
              · exact absurd hst (hfirst k t ht)
              · have hle := hpq.2 p' q' hrest
                omega

theorem FirstOffence.unique {steps : List Step} {p q p' q' : Nat} (h : FirstOffence steps p q)
    (h' : FirstOffence steps p' q') : p = p' ∧ q = q' := by
  have h₁ := h.2 p' q' h'.1
  have h₂ := h'.2 p q h.1
  omega

theorem decides_conflicts (steps : List Step) :
    Decides (checkConflicts steps) (∀ p q, ¬ Offends steps p q)
      (fun e => ∃ p q s t, FirstOffence steps p q ∧ steps[p]? = some s ∧ steps[q]? = some t
        ∧ e = .conflict s.name t.name) := by
  rcases checkConflicts_cases steps with ⟨hok, hnone⟩ | ⟨p, q, s, t, hpq, hs, ht, herror⟩
  · refine ⟨⟨fun _ => hnone, fun _ => hok⟩, fun e => ?_⟩
    rw [hok]
    refine ⟨(fun h => nomatch h), ?_⟩
    rintro ⟨p, q, -, -, hpq, -⟩
    exact absurd hpq.1 (hnone p q)
  · rw [herror]
    refine ⟨⟨(fun h => nomatch h), fun h => absurd hpq.1 (h p q)⟩, fun e => ?_⟩
    constructor
    · intro h
      exact ⟨p, q, s, t, hpq, hs, ht, (Except.error.inj h).symm⟩
    · rintro ⟨p', q', s', t', hpq', hs', ht', rfl⟩
      obtain ⟨rfl, rfl⟩ := hpq.unique hpq'
      rw [Option.some.inj (hs.symm.trans hs'), Option.some.inj (ht.symm.trans ht')]

/-! ## Requirements -/

theorem mem_presentNames {request : List Instance} {steps : List Step} {name : String} :
    name ∈ presentNames request steps ↔
      (∃ i ∈ request, i.name = name) ∨ ∃ s ∈ steps, s.name = name := by
  rw [presentNames, List.mem_append, List.mem_map, List.mem_map]

theorem missingNames_eq_nil_iff {request : List Instance} {steps : List Step} {d : Definition} :
    missingNames (presentNames request steps) d = [] ↔ Complete request steps d := by
  rw [missingNames, List.filter_eq_nil_iff, List.forall_mem_map]
  simp only [Bool.not_eq_true', Bool.not_eq_false, List.contains_iff_mem, mem_presentNames,
    Complete]

theorem firstLacking_cons {p : Definition → Prop} {a d : Definition} {rest : List Definition} :
    FirstLacking p (a :: rest) d ↔ (d = a ∧ ¬ p a) ∨ (p a ∧ FirstLacking p rest d) := by
  constructor
  · rintro ⟨before, after, hsplit, hbefore, hd⟩
    cases before with
    | nil =>
        obtain ⟨rfl, -⟩ := List.cons.inj hsplit
        exact Or.inl ⟨rfl, hd⟩
    | cons b before =>
        obtain ⟨rfl, hrest⟩ := List.cons.inj hsplit
        obtain ⟨ha, hbefore⟩ := List.forall_mem_cons.mp hbefore
        exact Or.inr ⟨ha, before, after, hrest, hbefore, hd⟩
  · rintro (⟨rfl, hd⟩ | ⟨ha, before, after, rfl, hbefore, hd⟩)
    · exact ⟨[], rest, rfl, (fun _ he => nomatch he), hd⟩
    · exact ⟨a :: before, after, rfl, List.forall_mem_cons.mpr ⟨ha, hbefore⟩, hd⟩

theorem decides_requirements (request : List Instance) (steps : List Step) :
    ∀ ds : List Definition,
      Decides (checkRequirements (presentNames request steps) ds)
        (∀ d ∈ ds, Complete request steps d)
        (fun e => ∃ d, FirstLacking (Complete request steps) ds d
          ∧ e = .missingRequired d.name.text (missingNames (presentNames request steps) d))
  | [] => by
      refine ⟨⟨fun _ _ hd => (nomatch hd), fun _ => rfl⟩, fun e => ⟨(fun h => nomatch h), ?_⟩⟩
      rintro ⟨d, ⟨before, after, hsplit, -⟩, -⟩
      cases before <;> cases hsplit
  | d :: rest => by
      have ih := decides_requirements request steps rest
      unfold checkRequirements
      simp only [List.forall_mem_cons, firstLacking_cons]
      cases hmissing : missingNames (presentNames request steps) d with
      | nil =>
          have hd : Complete request steps d := missingNames_eq_nil_iff.mp hmissing
          refine ⟨ih.accepts.trans (and_iff_right hd).symm, fun e => (ih.refuses e).trans ?_⟩
          refine exists_congr fun a => and_congr_left fun _ => ?_
          exact ⟨fun h => Or.inr ⟨hd, h⟩, fun h => h.elim (fun h => absurd hd h.2) And.right⟩
      | cons name names =>
          have hd : ¬ Complete request steps d := fun h => by
            rw [missingNames_eq_nil_iff.mpr h] at hmissing
            cases hmissing
          refine ⟨⟨(fun h => nomatch h), fun h => absurd h.1 hd⟩, fun e => ?_⟩
          constructor
          · intro h
            exact ⟨d, Or.inl ⟨rfl, hd⟩, by rw [hmissing, Except.error.inj h]⟩
          · rintro ⟨a, ⟨rfl, -⟩ | ⟨h, -⟩, rfl⟩
            · rw [hmissing]
            · exact absurd h hd

/-! ## Standard and model -/

theorem decides_standard (standard : Version) (ds : List Definition) :
    Decides (checkStandard standard ds)
      (∀ d ∈ ds, d.compatibility.standard.contains standard = true)
      (fun e => ∃ d, FirstLacking (fun d => d.compatibility.standard.contains standard = true) ds d
        ∧ e = .unsupportedStandard d.name.text standard) := by
  unfold checkStandard
  rw [← find?_eq_none_iff_all]
  simp only [← find?_eq_some_iff_firstLacking]
  cases ds.find? fun d => !d.compatibility.standard.contains standard with
  | none => exact ⟨by simp, by simp⟩
  | some d => exact ⟨by simp, by simp [eq_comm]⟩

theorem supportsTarget_iff {config : Config} {model : String} (hmodel : config.model = some model)
    (hstrict : config.strict = true) {d : Definition} :
    SupportsTarget config d ↔ d.compatibility.supportsModel model = true := by
  constructor
  · intro h
    exact h model hmodel hstrict
  · intro h model' hmodel' _
    rw [← Option.some.inj (hmodel.symm.trans hmodel')]
    exact h

/-- Where the model does not count, it cannot be lacking. -/
theorem supportsTarget_of_not_strict {config : Config}
    (h : ∀ model, config.model = some model → config.strict = false) (d : Definition) :
    SupportsTarget config d := by
  intro model hmodel hstrict
  rw [h model hmodel] at hstrict
  cases hstrict

theorem decides_models_of_not_strict {config : Config}
    (h : ∀ model, config.model = some model → config.strict = false) (ds : List Definition)
    (hcheck : checkModels config ds = .ok ()) :
    Decides (checkModels config ds) (∀ d ∈ ds, SupportsTarget config d)
      (fun e => ∃ d model, config.model = some model ∧ FirstLacking (SupportsTarget config) ds d
        ∧ e = .unsupportedModel d.name.text model) := by
  refine ⟨⟨fun _ d _ => supportsTarget_of_not_strict h d, fun _ => hcheck⟩, fun e => ?_⟩
  rw [hcheck]
  refine ⟨(fun h => nomatch h), ?_⟩
  rintro ⟨d, model, -, ⟨before, after, -, -, hlacks⟩, -⟩
  exact absurd (supportsTarget_of_not_strict h d) hlacks

theorem decides_models (config : Config) (ds : List Definition) :
    Decides (checkModels config ds) (∀ d ∈ ds, SupportsTarget config d)
      (fun e => ∃ d model, config.model = some model ∧ FirstLacking (SupportsTarget config) ds d
        ∧ e = .unsupportedModel d.name.text model) := by
  cases hmodel : config.model with
  | none =>
      rw [← hmodel]
      refine decides_models_of_not_strict (fun model h => ?_) ds
        (by simp only [checkModels, hmodel])
      rw [hmodel] at h
      cases h
  | some model =>
      cases hstrict : config.strict with
      | false =>
          rw [← hmodel]
          refine decides_models_of_not_strict (fun _ _ => hstrict) ds ?_
          simp only [checkModels, hmodel, hstrict]
          split <;> rfl
      | true =>
          have htarget : SupportsTarget config
              = fun d => d.compatibility.supportsModel model = true :=
            funext fun d => propext (supportsTarget_iff hmodel hstrict)
          simp only [checkModels, hmodel, hstrict, if_true, htarget]
          rw [← find?_eq_none_iff_all]
          simp only [← find?_eq_some_iff_firstLacking]
          cases ds.find? fun d => !d.compatibility.supportsModel model with
          | none => exact ⟨by simp, by simp⟩
          | some d => exact ⟨by simp, by simp [eq_comm]⟩

/-! ## Replacements -/

theorem replacesPrompt_eq (s : Step) : s.placement.replacesPrompt = decide (Replaces s) := by
  rw [Bool.eq_iff_iff, decide_eq_true_iff, Replaces]
  cases s.placement <;> simp [Placement.replacesPrompt]

/-- A filter finds two elements where they stand in the list. -/
theorem filter_eq_cons_cons_iff {p : Step → Bool} {steps : List Step} {s t : Step} :
    (∃ more, steps.filter p = s :: t :: more) ↔
      ∃ before between after, steps = before ++ s :: (between ++ t :: after)
        ∧ (∀ u ∈ before ++ between, ¬ p u = true) ∧ p s = true ∧ p t = true := by
  constructor
  · rintro ⟨more, h⟩
    obtain ⟨before, rest, rfl, hbefore, hs, hrest⟩ := List.filter_eq_cons_iff.mp h
    obtain ⟨between, after, rfl, hbetween, ht, -⟩ := List.filter_eq_cons_iff.mp hrest
    exact ⟨before, between, after, rfl, List.forall_mem_append.mpr ⟨hbefore, hbetween⟩, hs, ht⟩
  · rintro ⟨before, between, after, rfl, hnone, hs, ht⟩
    obtain ⟨hbefore, hbetween⟩ := List.forall_mem_append.mp hnone
    refine ⟨after.filter p, List.filter_eq_cons_iff.mpr ⟨before, _, rfl, hbefore, hs, ?_⟩⟩
    exact List.filter_eq_cons_iff.mpr ⟨between, after, rfl, hbetween, ht, rfl⟩

theorem decides_replacements (steps : List Step) :
    Decides (checkReplacements steps) (steps.countP (fun s => Replaces s) ≤ 1)
      (fun e => ∃ before s between t after, steps = before ++ s :: (between ++ t :: after)
        ∧ (∀ u ∈ before ++ between, ¬ Replaces u) ∧ Replaces s ∧ Replaces t
        ∧ e = .conflictingReplace s.name t.name) := by
  have hfault : ∀ e, (∃ before s between t after, steps = before ++ s :: (between ++ t :: after)
        ∧ (∀ u ∈ before ++ between, ¬ Replaces u) ∧ Replaces s ∧ Replaces t
        ∧ e = .conflictingReplace s.name t.name)
      ↔ ∃ s t more, steps.filter (fun s => Replaces s) = s :: t :: more
          ∧ e = PlanError.conflictingReplace s.name t.name := by
    intro e
    constructor
    · rintro ⟨before, s, between, t, after, hsplit, hnone, hs, ht, rfl⟩
      obtain ⟨more, hmore⟩ := filter_eq_cons_cons_iff (p := fun s => Replaces s).mpr
        ⟨before, between, after, hsplit, fun u hu => by simpa using hnone u hu, by simpa using hs,
          by simpa using ht⟩
      exact ⟨s, t, more, hmore, rfl⟩
    · rintro ⟨s, t, more, hmore, rfl⟩
      obtain ⟨before, between, after, hsplit, hnone, hs, ht⟩ :=
        filter_eq_cons_cons_iff.mp ⟨more, hmore⟩
      exact ⟨before, s, between, t, after, hsplit, fun u hu => by simpa using hnone u hu,
        by simpa using hs, by simpa using ht, rfl⟩
  have hfilter : steps.filter (fun s => s.placement.replacesPrompt)
      = steps.filter fun s => Replaces s := List.filter_congr fun s _ => replacesPrompt_eq s
  simp only [hfault, checkReplacements, hfilter, List.countP_eq_length_filter]
  match steps.filter fun s => Replaces s with
  | [] => exact ⟨by simp, by simp⟩
  | [s] => exact ⟨by simp, by simp⟩
  | s :: t :: more => exact ⟨by simp, by simp [eq_comm]⟩

/-! ## The gate -/

theorem decides_check (config : Config) (standard : Version) (request : List Instance)
    (steps : List Step) :
    Decides (check config standard request steps) (Admissible config standard request steps)
      (FirstViolation config standard request steps) := by
  have h := (decides_conflicts steps).andThen <|
    (decides_requirements request steps (involved request steps)).andThen <|
    (decides_standard standard (involved request steps)).andThen <|
    (decides_models config (involved request steps)).andThen <|
    decides_replacements steps
  refine ⟨h.accepts.trans ⟨?_, ?_⟩, fun e => (h.refuses e).trans ⟨?_, ?_⟩⟩
  · rintro ⟨ha, hb, hc, hd, he⟩
    exact ⟨ha, hb, hc, hd, he⟩
  · rintro ⟨ha, hb, hc, hd, he⟩
    exact ⟨ha, hb, hc, hd, he⟩
  · rintro (⟨p, q, s, t, hpq, hs, ht, rfl⟩ | ⟨ha, ⟨d, hd, rfl⟩ | ⟨hb, ⟨d, hd, rfl⟩
      | ⟨hc, ⟨d, model, hmodel, hd, rfl⟩
        | ⟨hm, before, s, between, t, after, hsplit, hnone, hs, ht, rfl⟩⟩⟩⟩)
    · exact .conflict hpq hs ht
    · exact .requirement ha hd
    · exact .standard ha hb hd
    · exact .model ha hb hc hmodel hd
    · exact .replacement ha hb hc hm hsplit hnone hs ht
  · rintro (⟨hpq, hs, ht⟩ | ⟨ha, hd⟩ | ⟨ha, hb, hd⟩ | ⟨ha, hb, hc, hmodel, hd⟩
      | ⟨ha, hb, hc, hm, hsplit, hnone, hs, ht⟩)
    · exact Or.inl ⟨_, _, _, _, hpq, hs, ht, rfl⟩
    · exact Or.inr ⟨ha, Or.inl ⟨_, hd, rfl⟩⟩
    · exact Or.inr ⟨ha, Or.inr ⟨hb, Or.inl ⟨_, hd, rfl⟩⟩⟩
    · exact Or.inr ⟨ha, Or.inr ⟨hb, Or.inr ⟨hc, Or.inl ⟨_, _, hmodel, hd, rfl⟩⟩⟩⟩
    · exact Or.inr ⟨ha, Or.inr ⟨hb, Or.inr ⟨hc, Or.inr
        ⟨hm, _, _, _, _, _, hsplit, hnone, hs, ht, rfl⟩⟩⟩⟩

/-- **A request is planned exactly when it keeps every rule, and otherwise rejected for the
first that it breaks.** -/
theorem ofRequest_decided {registry : Registry} {config : Config} {request : List Instance}
    {standard : Version} {steps : List Step}
    (hstandard : standardVersion config request = .ok standard)
    (hsteps : Expansion.expand registry request = .ok steps) :
    (∀ plan, ofRequest registry config request = .ok plan ↔
        plan = ⟨standard, steps⟩ ∧ Admissible config standard request steps)
      ∧ ∀ e, ofRequest registry config request = .error e ↔
          FirstViolation config standard request steps e := by
  have hcheck := decides_check config standard request steps
  have hofRequest : ofRequest registry config request
      = check config standard request steps >>= fun _ => .ok ⟨standard, steps⟩ := by
    unfold ofRequest
    rw [hstandard, hsteps]
    rfl
  rw [hofRequest]
  cases hc : check config standard request steps with
  | ok u =>
      have hadmissible := hcheck.accepts.mp hc
      refine ⟨fun plan => ⟨fun h => ⟨(Except.ok.inj h).symm, hadmissible⟩, ?_⟩, fun e => ?_⟩
      · rintro ⟨rfl, -⟩
        rfl
      · refine ⟨(fun h => nomatch h), fun h => ?_⟩
        rw [← hcheck.refuses, hc] at h
        cases h
  | error e =>
      refine ⟨fun plan => ⟨(fun h => nomatch h), fun h => ?_⟩, fun e' => ?_⟩
      · rw [← hcheck.accepts, hc] at h
        cases h.2
      · rw [← hcheck.refuses, hc]
        exact ⟨fun h => congrArg _ (Except.error.inj h), fun h => congrArg _ (Except.error.inj h)⟩

/-- A decorator without parameters that conflicts with those of the given names. -/
def opponent (name : Name) (conflicts : List Name)
    (consistent : Compatibility.Consistent name { conflicts := .ofList conflicts }) :
    Definition where
  name := name
  version := .one
  category := "tone"
  description := none
  parameters := []
  template := {}
  compatibility := { conflicts := .ofList conflicts }
  declared := rfl
  mapped := rfl
  consistent := consistent

def verbose : Instance := ⟨opponent ⟨"Verbose", rfl⟩ [] ⟨rfl, rfl, rfl⟩, .empty⟩

def terse : Instance :=
  ⟨opponent ⟨"Terse", rfl⟩ [⟨"Verbose", rfl⟩] ⟨rfl, rfl, rfl⟩, .empty⟩

/-- The conflict that `Terse` declares counts in either order; alone it is admitted. -/
theorem ofRequest_verbose_terse :
    ∃ standard steps₁ steps₂, standardVersion {} [verbose, terse] = .ok standard
      ∧ standardVersion {} [terse] = .ok standard
      ∧ Expansion.expand .empty [verbose, terse] = .ok steps₁
      ∧ Expansion.expand .empty [terse] = .ok steps₂
      ∧ FirstViolation {} standard [verbose, terse] steps₁ (.conflict "Verbose" "Terse")
      ∧ Admissible {} standard [terse] steps₂ := by
  obtain ⟨steps₁, hsteps₁, hrefused⟩ :
      ∃ steps, Expansion.expand .empty [verbose, terse] = .ok steps
        ∧ ofRequest .empty {} [verbose, terse] = .error (.conflict "Verbose" "Terse") :=
    ⟨_, rfl, by decide⟩
  obtain ⟨steps₂, hsteps₂, hplanned⟩ :
      ∃ steps, Expansion.expand .empty [terse] = .ok steps
        ∧ ofRequest .empty {} [terse] = .ok ⟨.one, steps⟩ :=
    ⟨_, rfl, by decide⟩
  exact ⟨_, steps₁, steps₂, rfl, rfl, hsteps₁, hsteps₂,
    ((ofRequest_decided rfl hsteps₁).2 _).mp hrefused,
    (((ofRequest_decided rfl hsteps₂).1 _).mp hplanned).2⟩

end Plan

end Decorate
