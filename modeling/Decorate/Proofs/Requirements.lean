import Decorate.Proofs.Conservation
import Decorate.Proofs.Gating

/-!
# Requirements after expansion

Conflicts are looked for among the steps, but requirements among the
request and the steps. The two views differ where an instance is left
out of the steps: a rejected branch has dropped it, or a `Priority` has
put another one in its place (`LeftOut`). Such an instance still counts.

`ofRequest_requirements` says so in both directions. What a step of a
plan requires is a step, arranges others, or was left out; and a request
is never rejected for want of a decorator that stands in it, whatever
became of that. `ofRequest_unmet` has a plan for each way of being left
out in which a step goes without what it requires.
-/

namespace Decorate

namespace Expansion

variable {registry : Registry} {request : Request}

/-! ## Failed expansions -/

/-- The errors that a name can lead to. -/
inductive NamingError : PlanError → Prop where
  | reference (referring reference : String) : NamingError (.invalidReference referring reference)
  | registry (e : RegistryError) : NamingError (.registry e)
  | binding (es : ParameterErrors) : NamingError (.binding es)

theorem namingError_of_resolve {referring : String} {strict : Bool} {claims : Claims}
    {name : String} {e : PlanError}
    (h : resolve registry request referring strict claims name = .error e) : NamingError e := by
  unfold resolve at h
  split at h
  · obtain rfl := Except.error.inj h
    exact .reference _ _
  · split at h
    · cases h
    · split at h
      · split at h
        · cases h
        · obtain rfl := Except.error.inj h
          exact .binding _
      · split at h
        · obtain rfl := Except.error.inj h
          exact .registry _
        · cases h

theorem namingError_of_resolveAll {referring : String} {strict : Bool} {e : PlanError} :
    ∀ {listed : List String} {claims : Claims},
      resolveAll registry request referring strict claims listed = .error e → NamingError e
  | [], _, h => nomatch h
  | name :: rest, claims, h => by
      unfold resolveAll at h
      split at h
      · rename_i hname
        obtain rfl := Except.error.inj h
        exact namingError_of_resolve hname
      · split at h
        · rename_i hrest
          obtain rfl := Except.error.inj h
          exact namingError_of_resolveAll hrest
        · cases h

theorem namingError_of_expandMeta {kind : Meta} {i : Instance} {position : Nat} {claims : Claims}
    {e : PlanError} (h : expandMeta registry request kind i position claims = .error e) :
    NamingError e := by
  unfold expandMeta at h
  cases kind with
  | version => cases h
  | chain | conditional | priority =>
      simp only at h
      split at h
      · rename_i hresolve
        obtain rfl := Except.error.inj h
        exact namingError_of_resolveAll hresolve
      · cases h

theorem namingError_of_expandFrom {e : PlanError} :
    ∀ {rest : List Instance} {position : Nat} {claims : Claims},
      expandFrom registry request position claims rest = .error e → NamingError e
  | [], _, _, h => nomatch h
  | i :: rest, position, claims, h => by
      unfold expandFrom at h
      split at h
      · split at h
        · rename_i hrest
          obtain rfl := Except.error.inj h
          exact namingError_of_expandFrom hrest
        · cases h
      · split at h
        · rename_i hmeta
          obtain rfl := Except.error.inj h
          exact namingError_of_expandMeta hmeta
        · split at h
          · rename_i hrest
            obtain rfl := Except.error.inj h
            exact namingError_of_expandFrom hrest
          · cases h

/-- **Expansion fails only at a name**: one that must not be mentioned, that the registry
cannot serve, or whose decorator cannot be bound with its defaults. -/
theorem namingError_of_expand {e : PlanError} (h : expand registry request = .error e) :
    NamingError e := by
  unfold expand at h
  split at h
  · rename_i hfrom
    obtain rfl := Except.error.inj h
    exact namingError_of_expandFrom hfrom
  · cases h

/-! ## Instances that are left out -/

/-- The place has an instance of the name that no step uses, and the request gives a reason:
a rejected branch with the name in it, or a `Priority` that keeps only the highest of
those that it lists. -/
def LeftOut (request : Request) (steps : List Step) (name : String) (p : Nat) : Prop :=
  isAt request name p = true ∧ p ∉ places steps
    ∧ ∃ q i, request[q]? = some i
        ∧ ((Meta.ofName? i.name = some .conditional ∧ name ∈ rejected request q i)
          ∨ (Meta.ofName? i.name = some .priority ∧ modeOf i = .override
            ∧ name ∈ names i "decorators"))

theorem exists_of_mem_places {steps : List Step} {p : Nat} (hp : p ∈ places steps) :
    ∃ s ∈ steps, s.origin = .request p := by
  obtain ⟨s, hs, hplace⟩ := List.mem_filterMap.mp hp
  refine ⟨s, hs, ?_⟩
  unfold Member.place? at hplace
  split at hplace
  · rename_i q horigin
    exact (Option.some.inj hplace) ▸ horigin
  · cases hplace

/-- A step that uses a place bears the name of the instance there. -/
theorem name_of_provided {s : Step} (hs : (memberOf s).Provided registry request) {p : Nat}
    (horigin : s.origin = .request p) {name : String} (hat : isAt request name p = true) :
    s.name = name := by
  have hinst : request[p]? = some s.inst := by
    unfold Member.Provided memberOf at hs
    simpa only [horigin] using hs
  exact eq_of_isAt (isAt_iff.mpr ⟨s.inst, hinst, rfl⟩) hat

/-- Only a rejected branch drops anything, and nothing that it does not name. -/
theorem Explains.rejected_of_dropped {position : Nat} {i : Instance} {r : Record}
    (h : Explains registry request position i r) {p : Nat} (hp : p ∈ r.dropped) {name : String}
    (hat : isAt request name p = true) :
    Meta.ofName? i.name = some .conditional ∧ name ∈ rejected request position i := by
  unfold Explains at h
  split at h
  · rcases h with rfl | rfl <;> cases hp
  · obtain rfl := h
    cases hp
  · rw [h.1] at hp
    cases hp
  · rename_i hkind
    obtain ⟨⟨dropping, hsub, hdropped⟩, -, -⟩ := h
    obtain ⟨other, hother, hat'⟩ := exists_mem_of_forall₂ (List.Forall₂.flip hdropped) hp
    obtain rfl := eq_of_isAt hat' hat
    exact ⟨hkind, hsub.subset hother⟩
  · rw [h.1] at hp
    cases hp

/-- Only a `Priority` in override mode outranks anything, and nothing that it does not
list. -/
theorem Explains.listed_of_outranked {position : Nat} {i : Instance} {r : Record}
    (h : Explains registry request position i r) {p : Nat} (hp : p ∈ places r.outranked)
    {name : String} (hat : isAt request name p = true) :
    Meta.ofName? i.name = some .priority ∧ modeOf i = .override ∧ name ∈ names i "decorators" := by
  have hnone : r.outranked ≠ [] := fun hnil => by
    rw [hnil] at hp
    cases hp
  unfold Explains at h
  split at h
  · rcases h with rfl | rfl <;> exact absurd rfl hnone
  · obtain rfl := h
    exact absurd rfl hnone
  · exact absurd h.2.1.2 hnone
  · exact absurd h.2.1.2 hnone
  · rename_i hkind
    obtain ⟨-, hkeeps, hlists⟩ := h
    split at hkeeps
    · rename_i hmode
      obtain ⟨s, hs, horigin⟩ := exists_of_mem_places hp
      have hmember : s ∈ r.members := hkeeps.perm.subset (List.mem_append_right _ hs)
      have hname := name_of_provided (hlists.provided s hmember) horigin hat
      exact ⟨hkind, hmode, hname ▸ hlists.sublist.subset (List.mem_map_of_mem hmember)⟩
    · exact absurd hkeeps.2 hnone

/-- Every place of a decorator that does not arrange others is used by a step, dropped, or
outranked. -/
theorem exists_account (hreachable : registry.Reachable) {steps : List Step}
    (h : expand registry request = .ok steps) :
    ∃ account : List Record, steps = account.flatMap Record.steps
      ∧ (∀ r ∈ account, ∃ p i, request[p]? = some i ∧ Explains registry request p i r)
      ∧ ∀ p, isOrdinary request p = true → ∃ r ∈ account, p ∈ r.accounted := by
  unfold expand at h
  split at h
  · cases h
  · rename_i slots claims hfrom
    obtain rfl := Except.ok.inj h
    obtain ⟨account, hacc⟩ := exists_accounts hreachable claims (List.drop_zero).symm hfrom
    have hclaimed : claimed request claims = account.flatMap Record.claimed := hacc.claimed
    have haccounted : (account.flatMap Record.accounted).Perm (ordinaryPlaces request) :=
      hacc.accounted.trans (hclaimed ▸ perm_ordinaryPlaces (hacc.orderly (Orderly.nil request)))
    refine ⟨account, hacc.steps, fun r hr => ?_, fun p hp => ?_⟩
    · obtain ⟨p, hp⟩ := List.mem_iff_getElem?.mp hr
      have hlt : p < request.length := hacc.length ▸ (List.getElem?_eq_some_iff.mp hp).1
      have hexplains := hacc.explains p request[p] r (List.getElem?_eq_getElem hlt) hp
      rw [Nat.zero_add] at hexplains
      exact ⟨p, request[p], List.getElem?_eq_getElem hlt, hexplains⟩
    · exact List.mem_flatMap.mp (haccounted.mem_iff.mpr (mem_ordinaryPlaces.mpr hp))

/-- An ordinary instance is a step of its name, or left out. -/
theorem step_or_leftOut (hreachable : registry.Reachable) {steps : List Step}
    (h : expand registry request = .ok steps) {name : String} {p : Nat}
    (hat : isAt request name p = true) (hname : Meta.ofName? name = none) :
    (∃ s ∈ steps, s.name = name) ∨ LeftOut request steps name p := by
  obtain ⟨account, rfl, hexplains, hall⟩ := exists_account hreachable h
  have hstep : p ∈ places (account.flatMap Record.steps) →
      ∃ s ∈ account.flatMap Record.steps, s.name = name := fun hp => by
    obtain ⟨s, hs, horigin⟩ := exists_of_mem_places hp
    obtain ⟨r, hr, hsr⟩ := List.mem_flatMap.mp hs
    obtain ⟨q, i, hi, hexplained⟩ := hexplains r hr
    exact ⟨s, hs, name_of_provided (hexplained.sourced hi hsr).provided horigin hat⟩
  by_cases hused : p ∈ places (account.flatMap Record.steps)
  · exact Or.inl (hstep hused)
  · obtain ⟨r, hr, hp⟩ := hall p (isOrdinary_of_isAt hat hname)
    obtain ⟨q, i, hi, hexplained⟩ := hexplains r hr
    refine Or.inr ⟨hat, hused, q, i, hi, ?_⟩
    rw [Record.accounted, List.mem_append, List.mem_append] at hp
    rcases hp with hdropped | hsteps | houtranked
    · exact Or.inl (hexplained.rejected_of_dropped hdropped hat)
    · refine absurd ?_ hused
      obtain ⟨s, hs, hplace⟩ := List.mem_filterMap.mp hsteps
      exact List.mem_filterMap.mpr ⟨s, List.mem_flatMap.mpr ⟨r, hr, hs⟩, hplace⟩
    · exact Or.inr (hexplained.listed_of_outranked houtranked hat)

end Expansion

namespace Plan

open Expansion

variable {registry : Registry} {config : Config} {request : List Instance}

/-! ## Planned requests -/

/-- A step has the name, or an instance that arranges others. -/
def Scheduled (request : Request) (steps : List Step) (name : String) : Prop :=
  (∃ s ∈ steps, s.name = name)
    ∨ ∃ i ∈ request, i.name = name ∧ (Meta.ofName? i.name).isSome = true

instance (request : Request) (steps : List Step) (name : String) :
    Decidable (Scheduled request steps name) := inferInstanceAs (Decidable (_ ∨ _))

theorem misplaced_of_checkNoVersion {e : PlanError} :
    ∀ {rest : List Instance} {position : Nat}, checkNoVersion position rest = .error e →
      ∃ p, e = .misplacedVersion p
  | [], _, h => nomatch h
  | i :: rest, position, h => by
      unfold checkNoVersion at h
      split at h
      · exact ⟨position, (Except.error.inj h).symm⟩
      · exact misplaced_of_checkNoVersion h

/-- The standard version fails with a `Version` decorator that is out of place, or whose
text is no version. -/
theorem error_of_standardVersion {e : PlanError} (h : standardVersion config request = .error e) :
    (∃ p, e = .misplacedVersion p) ∨ ∃ text, e = .invalidStandard text := by
  cases request with
  | nil => cases h
  | cons i rest =>
      unfold standardVersion requestedStandard at h
      simp only at h
      split at h
      · rename_i hrequested
        obtain rfl := Except.error.inj h
        split at hrequested
        · split at hrequested
          · cases hrequested
          · split at hrequested
            · cases hrequested
            · exact Or.inr ⟨_, (Except.error.inj hrequested).symm⟩
        · cases hrequested
      · split at h
        · rename_i hno
          obtain rfl := Except.error.inj h
          exact Or.inl (misplaced_of_checkNoVersion hno)
        · cases h

/-- How a request is planned: each stage can reject it. -/
inductive Planning (registry : Registry) (config : Config) (request : Request) :
    Except PlanError Plan → Prop where
  | unversioned {e : PlanError} :
      standardVersion config request = .error e → Planning registry config request (.error e)
  | unexpanded {e : PlanError} :
      expand registry request = .error e → Planning registry config request (.error e)
  | refused {standard : Version} {steps : List Step} {e : PlanError} :
      standardVersion config request = .ok standard → expand registry request = .ok steps →
      FirstViolation config standard request steps e →
      Planning registry config request (.error e)
  | planned {standard : Version} {steps : List Step} :
      standardVersion config request = .ok standard → expand registry request = .ok steps →
      Admissible config standard request steps →
      Planning registry config request (.ok ⟨standard, steps⟩)

theorem planning_of_ofRequest {outcome : Except PlanError Plan}
    (h : ofRequest registry config request = outcome) :
    Planning registry config request outcome := by
  subst h
  unfold ofRequest
  cases hstandard : standardVersion config request with
  | error e => exact .unversioned hstandard
  | ok standard =>
      cases hsteps : expand registry request with
      | error e => exact .unexpanded hsteps
      | ok steps =>
          have hdecides := decides_check config standard request steps
          simp only [bind, Except.bind]
          cases hcheck : check config standard request steps with
          | error e => exact .refused hstandard hsteps ((hdecides.refuses e).mp hcheck)
          | ok u => exact .planned hstandard hsteps (hdecides.accepts.mp hcheck)

/-- A missing name is on nobody in the request. -/
theorem not_mem_missingNames {steps : List Step} {d : Definition} {i : Instance}
    (hi : i ∈ request) : i.name ∉ missingNames (presentNames request steps) d := by
  intro hmem
  have hpresent : i.name ∈ presentNames request steps := mem_presentNames.mpr (Or.inl ⟨i, hi, rfl⟩)
  have hmissing := (List.mem_filter.mp hmem).2
  rw [List.contains_iff_mem.mpr hpresent] at hmissing
  cases hmissing

/-- Only the check rejects a request for want of a decorator, so what is missing is not in
the request. -/
theorem not_mem_missing {decorator : String} {missing : List String}
    (h : ofRequest registry config request = .error (.missingRequired decorator missing))
    {i : Instance} (hi : i ∈ request) : i.name ∉ missing := by
  cases planning_of_ofRequest h with
  | unversioned hstandard =>
      rcases error_of_standardVersion hstandard with ⟨p, hp⟩ | ⟨text, htext⟩
      · cases hp
      · cases htext
  | unexpanded hsteps => nomatch namingError_of_expand hsteps
  | refused _ _ hviolation =>
      cases hviolation with
      | requirement => exact not_mem_missingNames hi

/-- What stands in a request is scheduled, or left out. -/
theorem scheduled_or_leftOut (hreachable : registry.Reachable) {steps : List Step}
    (hsteps : expand registry request = .ok steps) {i : Instance} (hi : i ∈ request) :
    Scheduled request steps i.name ∨ ∃ p, LeftOut request steps i.name p := by
  obtain ⟨p, hp⟩ := List.mem_iff_getElem?.mp hi
  have hat : isAt request i.name p = true := isAt_iff.mpr ⟨i, hp, rfl⟩
  cases hkind : Meta.ofName? i.name with
  | some kind => exact Or.inl (Or.inr ⟨i, hi, rfl, Option.isSome_of_eq_some hkind⟩)
  | none =>
      rcases step_or_leftOut hreachable hsteps hat hkind with hstep | hleft
      · exact Or.inl (Or.inl hstep)
      · exact Or.inr ⟨p, hleft⟩

/-- **Requirements are met by what is rendered, or by what was left out of it.** Where a step
of a plan requires a decorator, that is a step as well, or it arranges others, or it stands
in the request and was left out. In return, a request is never rejected for want of a
decorator that stands in it. -/
theorem ofRequest_requirements (hreachable : registry.Reachable) :
    (∀ plan, ofRequest registry config request = .ok plan →
        ∀ s ∈ plan.steps, ∀ n ∈ s.definition.compatibility.requires.toList,
          Scheduled request plan.steps n.text ∨ ∃ p, LeftOut request plan.steps n.text p)
      ∧ ∀ decorator missing,
          ofRequest registry config request = .error (.missingRequired decorator missing) →
            ∀ i ∈ request, i.name ∉ missing := by
  refine ⟨fun plan h s hs n hn => ?_, fun decorator missing h i hi => not_mem_missing h hi⟩
  cases planning_of_ofRequest h with
  | @planned standard steps _ hsteps hadmissible =>
      have hinvolved : s.definition ∈ involved request steps :=
        List.mem_append_right _ (List.mem_map_of_mem hs)
      rcases hadmissible.complete s.definition hinvolved n hn with ⟨i, hi, hname⟩ | hstep
      · rw [← hname]
        exact scheduled_or_leftOut hreachable hsteps hi
      · exact Or.inl (Or.inl hstep)

def lead : Instance := ⟨sample ⟨"Lead", rfl⟩ [] [] rfl, .empty⟩

/-- Requires `Lead`. -/
def follow : Instance :=
  ⟨{ sample ⟨"Follow", rfl⟩ [] [] rfl with
      compatibility := { requires := .ofList [⟨"Lead", rfl⟩] }, consistent := ⟨rfl, rfl, rfl⟩ },
    .empty⟩

/-- `Lead` is in the branch that is rejected. -/
def rejecting : Request :=
  [⟨sample ⟨Meta.conditional.name, rfl⟩ ["condition"] ["then"] rfl,
      .ofList [("condition", .text "Absent"), ("then", .list [.text "Lead"])]⟩,
    lead, follow]

/-- `Lead` gives way to `Head`. -/
def outranking : Request :=
  [⟨sample ⟨Meta.priority.name, rfl⟩ [] ["decorators"] rfl,
      .ofList [("decorators", .list [.text "Head", .text "Lead"])]⟩,
    ⟨sample ⟨"Head", rfl⟩ [] [] rfl, .empty⟩, lead, follow]

/-- `Lead` is left out of both plans, and counts; alone `Follow` is rejected. -/
theorem ofRequest_leftOut :
    Registry.empty.Reachable
      ∧ (∃ plan, ofRequest .empty {} rejecting = .ok plan
          ∧ ∃ p, LeftOut rejecting plan.steps "Lead" p)
      ∧ (∃ plan, ofRequest .empty {} outranking = .ok plan
          ∧ ∃ p, LeftOut outranking plan.steps "Lead" p)
      ∧ ofRequest .empty {} [follow] = .error (.missingRequired "Follow" ["Lead"])
      ∧ ∀ i ∈ [follow], i.name ∉ ["Lead"] := by
  have hreachable : Registry.empty.Reachable := ⟨[], rfl⟩
  have hleft : ∀ {request : Request} {plan : Plan} {s : Step} {n : Name},
      ofRequest .empty {} request = .ok plan → s ∈ plan.steps →
        n ∈ s.definition.compatibility.requires.toList →
        ¬ Scheduled request plan.steps n.text → ∃ p, LeftOut request plan.steps n.text p :=
    fun h hs hn hnot =>
      ((ofRequest_requirements hreachable).1 _ h _ hs _ hn).resolve_left hnot
  have halone : ofRequest .empty {} [follow] = .error (.missingRequired "Follow" ["Lead"]) := by
    decide
  refine ⟨hreachable, ⟨_, rfl, ?_⟩, ⟨_, rfl, ?_⟩, halone,
    (ofRequest_requirements hreachable).2 _ _ halone⟩
  · exact hleft (s := stepOf ⟨follow, .request 2⟩ none) (n := ⟨"Lead", rfl⟩) rfl (by decide)
      (by decide) (by decide)
  · exact hleft (s := stepOf ⟨follow, .request 3⟩ none) (n := ⟨"Lead", rfl⟩) rfl (by decide)
      (by decide) (by decide)

/-- In both plans `Follow` is a step, and `Lead`, which it requires, is not. -/
theorem ofRequest_unmet :
    (∃ plan, ofRequest .empty {} rejecting = .ok plan
        ∧ ∃ s ∈ plan.steps, ∃ n ∈ s.definition.compatibility.requires.toList,
          ¬ Scheduled rejecting plan.steps n.text)
      ∧ ∃ plan, ofRequest .empty {} outranking = .ok plan
          ∧ ∃ s ∈ plan.steps, ∃ n ∈ s.definition.compatibility.requires.toList,
            ¬ Scheduled outranking plan.steps n.text := by
  refine ⟨⟨_, rfl, stepOf ⟨follow, .request 2⟩ none, ?_, ⟨"Lead", rfl⟩, ?_, ?_⟩,
    ⟨_, rfl, stepOf ⟨follow, .request 3⟩ none, ?_, ⟨"Lead", rfl⟩, ?_, ?_⟩⟩
  all_goals decide

end Plan

end Decorate
