import Decorate.Plan.Layout

/-!
# What the gate does not see

Different requests can come to the same plan. This module has the two
reasons for that.

Of a step, the gate and the layout see the instance, how its text
combines, which step it is subordinate to, and with which steps it
shares a `Priority`. A change that keeps all of these (`Step.Relabels`)
can say anything about where the step comes from and who scheduled it.

Of an instance that is no step, the gate sees its name and what it
demands. An instance that demands nothing (`Definition.Undemanding`) can
stand anywhere in a request in which nobody requires it
(`Plan.check_bystander`).
-/

namespace Decorate

/-! ## Relabelled steps -/

/-- A change to steps that neither the gate nor the layout can see. -/
structure Step.Relabels (f : Step → Step) : Prop where
  inst : ∀ s, (f s).inst = s.inst
  behavior : ∀ s, (f s).behavior = s.behavior
  subordinateTo : ∀ s, (f s).subordinateTo = s.subordinateTo
  sharesPriority : ∀ s t, (f s).sharesPriority (f t) = s.sharesPriority t

namespace Step.Relabels

variable {f : Step → Step} (h : Step.Relabels f)

include h

theorem name (s : Step) : (f s).name = s.name := congrArg Instance.name (h.inst s)

theorem definition (s : Step) : (f s).definition = s.definition :=
  congrArg Instance.definition (h.inst s)

theorem placement (s : Step) : (f s).placement = s.placement :=
  congrArg Instance.placement (h.inst s)

theorem render (s : Step) : (f s).render = s.render := by
  simp only [Step.render, h.inst, h.subordinateTo]

/-! ### The gate -/

theorem checkConflicts : ∀ steps : List Step,
    Plan.checkConflicts (steps.map f) = Plan.checkConflicts steps
  | [] => rfl
  | s :: rest => by
      have hseen : Plan.inConflict (f s) ∘ f = Plan.inConflict s := by
        funext t
        simp only [Function.comp_apply, Plan.inConflict, h.name, h.definition, h.sharesPriority]
      rw [List.map_cons, Plan.checkConflicts, Plan.checkConflicts, List.find?_map, hseen,
        checkConflicts rest]
      cases rest.find? (Plan.inConflict s) with
      | none => rfl
      | some t => simp only [Option.map_some, h.name]

theorem checkReplacements (steps : List Step) :
    Plan.checkReplacements (steps.map f) = Plan.checkReplacements steps := by
  have hseen : (fun s : Step => s.placement.replacesPrompt) ∘ f
      = fun s => s.placement.replacesPrompt := by
    funext s
    simp only [Function.comp_apply, h.placement]
  rw [Plan.checkReplacements, Plan.checkReplacements, List.filter_map, hseen]
  generalize steps.filter (fun s => s.placement.replacesPrompt) = replacing
  match replacing with
  | [] => rfl
  | [s] => rfl
  | s :: t :: more => simp only [List.map_cons, h.name]

theorem presentNames (request : List Instance) (steps : List Step) :
    Plan.presentNames request (steps.map f) = Plan.presentNames request steps := by
  rw [Plan.presentNames, Plan.presentNames, List.map_map]
  exact congrArg _ (List.map_congr_left fun s _ => h.name s)

theorem involved (request : List Instance) (steps : List Step) :
    Plan.involved request (steps.map f) = Plan.involved request steps := by
  rw [Plan.involved, Plan.involved, List.map_map]
  exact congrArg _ (List.map_congr_left fun s _ => h.definition s)

theorem check (config : Config) (standard : Version) (request : List Instance)
    (steps : List Step) :
    Plan.check config standard request (steps.map f)
      = Plan.check config standard request steps := by
  simp only [Plan.check, h.checkConflicts, h.checkReplacements, h.presentNames, h.involved]

/-! ### The layout -/

theorem ofSteps (steps : List Step) : Draft.ofSteps (steps.map f) = Draft.ofSteps steps := by
  have hadd : (fun d s => Draft.add d (f s)) = Draft.add := by
    funext d s
    simp only [Draft.add, h.render, h.placement, h.behavior]
  rw [Draft.ofSteps, Draft.ofSteps, List.foldl_map, hadd]

/-! ### Steps that look the same -/

section

variable {steps steps' : List Step} (hsame : steps.map f = steps'.map f)

include hsame

theorem check_congr (config : Config) (standard : Version) (request : List Instance) :
    Plan.check config standard request steps = Plan.check config standard request steps' := by
  rw [← h.check, hsame, h.check]

theorem ofSteps_congr : Draft.ofSteps steps = Draft.ofSteps steps' := by
  rw [← h.ofSteps, hsame, h.ofSteps]

end

end Step.Relabels

/-! ## Bystanders -/

/-- A definition that requires no decorator and goes with every standard version and every
model. -/
structure Definition.Undemanding (d : Definition) : Prop where
  requires : d.compatibility.requires = .empty
  standard : d.compatibility.standard = .unbounded
  models : d.compatibility.models = .empty

namespace Definition

/-- The definition requires a decorator of the name. -/
def Requires (d : Definition) (name : String) : Prop :=
  ∃ n ∈ d.compatibility.requires.toList, n.text = name

variable {d : Definition}

theorem Undemanding.missingNames (h : d.Undemanding) (present : List String) :
    Plan.missingNames present d = [] := by
  rw [Plan.missingNames, h.requires]
  rfl

theorem Undemanding.contains (h : d.Undemanding) (standard : Version) :
    d.compatibility.standard.contains standard = true := by
  rw [h.standard, StandardRange.contains_unbounded]

theorem Undemanding.supportsModel (h : d.Undemanding) (model : String) :
    d.compatibility.supportsModel model = true := by
  rw [Compatibility.supportsModel, h.models]
  rfl

end Definition

namespace Plan

variable {before after : List Definition} {d : Definition}

theorem find?_bystander {p : Definition → Bool} (hd : p d = false) :
    (before ++ d :: after).find? p = (before ++ after).find? p := by
  rw [List.find?_append, List.find?_append, List.find?_cons_of_neg (by rw [hd]; decide)]

theorem checkRequirements_bystander {present : List String} (hd : missingNames present d = []) :
    ∀ before : List Definition,
      checkRequirements present (before ++ d :: after)
        = checkRequirements present (before ++ after)
  | [] => by
      rw [List.nil_append, checkRequirements, hd]
      rfl
  | e :: before => by
      rw [List.cons_append, List.cons_append, checkRequirements, checkRequirements,
        checkRequirements_bystander hd before]

/-- Only the names that somebody requires need to be there. -/
theorem checkRequirements_congr {present present' : List String} :
    ∀ {ds : List Definition},
      (∀ d ∈ ds, ∀ n ∈ d.compatibility.requires.toList, n.text ∈ present ↔ n.text ∈ present') →
      checkRequirements present ds = checkRequirements present' ds
  | [], _ => rfl
  | d :: rest, h => by
      obtain ⟨hd, hrest⟩ := List.forall_mem_cons.mp h
      have hmissing : missingNames present d = missingNames present' d := by
        refine List.filter_congr fun name hname => ?_
        obtain ⟨n, hn, rfl⟩ := List.mem_map.mp hname
        rw [Bool.eq_iff_iff, Bool.not_eq_true', Bool.not_eq_true', ← Bool.not_eq_true,
          ← Bool.not_eq_true, List.contains_iff_mem, List.contains_iff_mem, hd n hn]
      rw [checkRequirements, checkRequirements, hmissing, checkRequirements_congr hrest]

/-- **An instance that demands nothing, and that nobody requires, makes no difference to the
gate.** -/
theorem check_bystander {before after : List Instance} {i : Instance} {steps : List Step}
    (hi : i.definition.Undemanding)
    (hrequired : ∀ d ∈ involved (before ++ after) steps, ¬ d.Requires i.name) (config : Config)
    (standard : Version) :
    check config standard (before ++ i :: after) steps
      = check config standard (before ++ after) steps := by
  have hinvolved : involved (before ++ after) steps
      = before.map Instance.definition
        ++ (after.map Instance.definition ++ steps.map Step.definition) := by
    rw [involved, List.map_append, List.append_assoc]
  have hinvolved' : involved (before ++ i :: after) steps
      = before.map Instance.definition
        ++ i.definition :: (after.map Instance.definition ++ steps.map Step.definition) := by
    rw [involved, List.map_append, List.map_cons, List.append_assoc, List.cons_append]
  have hrequirements : checkRequirements (presentNames (before ++ i :: after) steps)
        (involved (before ++ i :: after) steps)
      = checkRequirements (presentNames (before ++ after) steps)
        (involved (before ++ after) steps) := by
    rw [hinvolved', checkRequirements_bystander (hi.missingNames _), ← hinvolved]
    refine checkRequirements_congr fun d hd n hn => ?_
    have hne : n.text ≠ i.name := fun heq => hrequired d hd ⟨n, hn, heq⟩
    simp [presentNames, hne]
  have hstandard : checkStandard standard (involved (before ++ i :: after) steps)
      = checkStandard standard (involved (before ++ after) steps) := by
    rw [checkStandard, checkStandard, hinvolved', hinvolved,
      find?_bystander (by rw [hi.contains, Bool.not_true])]
  have hmodels : checkModels config (involved (before ++ i :: after) steps)
      = checkModels config (involved (before ++ after) steps) := by
    unfold checkModels
    cases config.model with
    | none => rfl
    | some model =>
        simp only
        rw [hinvolved', hinvolved, find?_bystander (by rw [hi.supportsModel, Bool.not_true])]
  rw [check, check, hrequirements, hstandard, hmodels]

/-- A request whose standard version is known is expanded, and composed if the gate lets its
steps pass. -/
theorem compose_of_standardVersion {registry : Registry} {config : Config}
    {request : List Instance} {standard : Version}
    (hstandard : standardVersion config request = .ok standard) (base : String) :
    compose registry config request base
      = (Expansion.expand registry request).bind fun steps =>
          (check config standard request steps).map fun _ => (Draft.ofSteps steps).finish base := by
  rw [compose, ofRequest, hstandard]
  simp only [bind, Except.bind]
  cases Expansion.expand registry request with
  | error e => rfl
  | ok steps =>
      simp only
      cases check config standard request steps <;> rfl

theorem compose_of_expand {registry : Registry} {config : Config} {request : List Instance}
    {standard : Version} {steps : List Step}
    (hstandard : standardVersion config request = .ok standard)
    (hsteps : Expansion.expand registry request = .ok steps) (base : String) :
    compose registry config request base
      = (check config standard request steps).map fun _ => (Draft.ofSteps steps).finish base := by
  rw [compose_of_standardVersion hstandard, hsteps]
  rfl

end Plan

end Decorate
