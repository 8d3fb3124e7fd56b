import Decorate.Proofs.Chaining

/-!
# A leading version is a configured one

A `Version` decorator in front of a request chooses the standard version
and does nothing else. It moves every other decorator one place on. The
places show in the claims, in the origins of steps and in the groups of
a `Priority`, and `expand_version` says that nothing comes of it: the
request is expanded as it would be by itself, and what names a place
names the next one (`Step.shifted`). Each function of the expansion
commutes with that shift as long as place 0, where the decorator
stands, counts as claimed (`shiftedClaims`).

The gate and the layout do not see places, so `compose_version` has the
request composed as if its standard version had been configured.
-/

namespace Decorate

/-! ## One place on -/

def Origin.shifted : Origin → Origin
  | request position => request (position + 1)
  | registry => registry

/-- The step of an instance that stands one place further on. -/
def Step.shifted (s : Step) : Step :=
  { s with origin := s.origin.shifted, priorityGroup := s.priorityGroup.map (· + 1) }

theorem Step.relabels_shifted : Step.Relabels Step.shifted where
  inst _ := rfl
  behavior _ := rfl
  subordinateTo _ := rfl
  sharesPriority s t := by
    cases hs : s.priorityGroup with
    | none => simp [Step.sharesPriority, Step.shifted, hs]
    | some g => cases ht : t.priorityGroup <;> simp [Step.sharesPriority, Step.shifted, hs, ht]

namespace Expansion

def Member.shifted (m : Member) : Member := { m with origin := m.origin.shifted }

def Slot.shifted : Slot → Slot
  | expanded steps => expanded (steps.map Step.shifted)
  | plain i position => plain i (position + 1)

/-- The claims on a request, once something stands in front of it that counts as claimed. -/
def shiftedClaims (claims : Claims) : Claims := claims.map (· + 1) ++ [0]

theorem zero_mem_shiftedClaims (claims : Claims) : 0 ∈ shiftedClaims claims :=
  List.mem_append_right _ List.mem_cons_self

@[simp] theorem succ_mem_shiftedClaims {claims : Claims} {position : Nat} :
    position + 1 ∈ shiftedClaims claims ↔ position ∈ claims := by
  simp [shiftedClaims]

@[simp] theorem shiftedClaims_cons (position : Nat) (claims : Claims) :
    shiftedClaims (position :: claims) = (position + 1) :: shiftedClaims claims := rfl

/-! ## Resolving names -/

variable {registry : Registry} {xs : Request} {v : Instance}

theorem unclaimedFrom?_shifted (claims : Claims) (name : String) :
    ∀ (position : Nat) (rest : Request),
      unclaimedFrom? (shiftedClaims claims) name (position + 1) rest
        = (unclaimedFrom? claims name position rest).map fun (p, i) => (p + 1, i)
  | _, [] => rfl
  | position, i :: rest => by
      simp only [unclaimedFrom?, succ_mem_shiftedClaims,
        unclaimedFrom?_shifted claims name (position + 1) rest]
      split <;> rfl

/-- What stands in front is claimed, so no name stands for it. -/
theorem unclaimed?_shifted (claims : Claims) (name : String) :
    unclaimed? (v :: xs) (shiftedClaims claims) name
      = (unclaimed? xs claims name).map fun (p, i) => (p + 1, i) := by
  rw [unclaimed?, unclaimedFrom?, if_neg fun h => h.2 (zero_mem_shiftedClaims claims)]
  exact unclaimedFrom?_shifted claims name 0 xs

theorem resolve_shifted (referring : String) (strict : Bool) (claims : Claims) (name : String) :
    resolve registry (v :: xs) referring strict (shiftedClaims claims) name
      = (resolve registry xs referring strict claims name).map fun (member, claims) =>
          (member.map Member.shifted, shiftedClaims claims) := by
  unfold resolve
  split
  · rfl
  · rw [unclaimed?_shifted]
    cases unclaimed? xs claims name with
    | some found => rfl
    | none =>
        simp only [Option.map_none]
        cases registry.lookup name none with
        | ok d =>
            simp only
            cases Instance.withDefaults d <;> rfl
        | error e => cases strict <;> rfl

theorem resolveAll_shifted (referring : String) (strict : Bool) :
    ∀ (names : List String) (claims : Claims),
      resolveAll registry (v :: xs) referring strict (shiftedClaims claims) names
        = (resolveAll registry xs referring strict claims names).map fun (members, claims) =>
            (members.map Member.shifted, shiftedClaims claims)
  | [], _ => rfl
  | name :: rest, claims => by
      rw [resolveAll, resolveAll, resolve_shifted]
      cases resolve registry xs referring strict claims name with
      | error e => rfl
      | ok found =>
          obtain ⟨member, claims⟩ := found
          simp only [Except.map]
          rw [resolveAll_shifted referring strict rest claims]
          cases resolveAll registry xs referring strict claims rest with
          | error e => rfl
          | ok resolved => cases member <;> rfl

theorem drop_shifted :
    ∀ (names : List String) (claims : Claims),
      drop (v :: xs) (shiftedClaims claims) names = shiftedClaims (drop xs claims names)
  | [], _ => rfl
  | name :: rest, claims => by
      rw [drop, drop, unclaimed?_shifted]
      cases unclaimed? xs claims name with
      | none => exact drop_shifted rest claims
      | some found => exact drop_shifted rest (found.1 :: claims)

/-! ## The decorators that arrange others -/

theorem presentElsewhere_shifted {name : Option String} (hname : name ≠ some v.name)
    (position : Nat) :
    presentElsewhere name (position + 1) (v :: xs) = presentElsewhere name position xs := by
  have hfront : (some v.name == name) = false := beq_eq_false_iff_ne.mpr hname.symm
  unfold presentElsewhere
  rw [List.zipIdx_cons, List.any_cons, List.zipIdx_succ, List.any_map]
  simp only [hfront, Bool.and_false, Bool.false_or]
  refine List.any_congr rfl fun (i, other) => ?_
  simp

theorem ranked_shifted (mode : PriorityMode) (highest : Option String) (group : Nat)
    (m : Member) :
    ranked mode highest (group + 1) m.shifted = (ranked mode highest group m).shifted := by
  cases mode <;> rfl

theorem firstOfEachPlacement_shifted :
    ∀ (taken : List Placement) (steps : List Step),
      firstOfEachPlacement taken (steps.map Step.shifted)
        = (firstOfEachPlacement taken steps).map Step.shifted
  | _, [] => rfl
  | taken, s :: rest => by
      rw [List.map_cons, firstOfEachPlacement, firstOfEachPlacement,
        firstOfEachPlacement_shifted taken rest, Step.relabels_shifted.placement,
        firstOfEachPlacement_shifted (s.placement :: taken) rest]
      split <;> rfl

theorem prioritize_shifted (mode : PriorityMode) (explicit : Bool) (group : Nat) :
    ∀ members : List Member,
      prioritize mode explicit (group + 1) (members.map Member.shifted)
        = (prioritize mode explicit group members).map Step.shifted
  | [] => rfl
  | first :: rest => by
      have hrest : ∀ highest, (rest.map Member.shifted).map (ranked mode highest (group + 1))
          = (rest.map (ranked mode highest group)).map Step.shifted := by
        intro highest
        rw [List.map_map, List.map_map]
        exact List.map_congr_left fun m _ => ranked_shifted mode highest group m
      have hfirst : first.shifted.inst = first.inst := rfl
      rw [List.map_cons, prioritize, prioritize]
      simp only [ranked_shifted, hrest, hfirst, ← List.map_cons, firstOfEachPlacement_shifted]
      split <;> rfl

theorem expandMeta_shifted {kind : Meta} {i : Instance}
    (htests : kind = .conditional → text? i "condition" ≠ some v.name) (position : Nat)
    (claims : Claims) :
    expandMeta registry (v :: xs) kind i (position + 1) (shiftedClaims claims)
      = (expandMeta registry xs kind i position claims).map fun (steps, claims) =>
          (steps.map Step.shifted, shiftedClaims claims) := by
  have hsteps : ∀ introducedBy (members : List Member),
      (members.map Member.shifted).map (stepOf · introducedBy)
        = (members.map (stepOf · introducedBy)).map Step.shifted := fun introducedBy members => by
    rw [List.map_map, List.map_map]
    rfl
  cases kind with
  | version => rfl
  | chain =>
      simp only [expandMeta, resolveAll_shifted]
      cases resolveAll registry xs i.name (flag i "stopOnFailure" true) claims
          (names i "decorators") with
      | error e => rfl
      | ok found => simp only [Except.map, hsteps]
  | conditional =>
      simp only [expandMeta, presentElsewhere_shifted (htests rfl), drop_shifted,
        resolveAll_shifted]
      generalize resolveAll registry xs i.name true _ _ = resolved
      cases resolved with
      | error e => rfl
      | ok found => simp only [Except.map, hsteps]
  | priority =>
      simp only [expandMeta, resolveAll_shifted]
      cases resolveAll registry xs i.name true claims (names i "decorators") with
      | error e => rfl
      | ok found => simp only [Except.map, prioritize_shifted]

/-! ## The whole request -/

theorem expandFrom_shifted :
    ∀ {rest : List Instance} (position : Nat) (claims : Claims),
      (∀ i ∈ rest, i.name = Meta.conditional.name → text? i "condition" ≠ some v.name) →
      expandFrom registry (v :: xs) (position + 1) (shiftedClaims claims) rest
        = (expandFrom registry xs position claims rest).map fun (slots, claims) =>
            (slots.map Slot.shifted, shiftedClaims claims)
  | [], _, _, _ => rfl
  | i :: rest, position, claims, htests => by
      obtain ⟨hi, hrest⟩ := List.forall_mem_cons.mp htests
      rw [expandFrom, expandFrom]
      cases hkind : Meta.ofName? i.name with
      | none =>
          simp only
          rw [expandFrom_shifted (position + 1) claims hrest]
          cases expandFrom registry xs (position + 1) claims rest <;> rfl
      | some kind =>
          have htests : kind = .conditional → text? i "condition" ≠ some v.name := by
            rintro rfl
            exact hi (Meta.name_of_ofName? hkind)
          simp only
          rw [← shiftedClaims_cons, expandMeta_shifted htests]
          cases expandMeta registry xs kind i position (position :: claims) with
          | error e => rfl
          | ok expanded =>
              simp only [Except.map]
              rw [expandFrom_shifted (position + 1) expanded.2 hrest]
              cases expandFrom registry xs (position + 1) expanded.2 rest <;> rfl

theorem steps_shifted (claims : Claims) (slot : Slot) :
    slot.shifted.steps (shiftedClaims claims) = (slot.steps claims).map Step.shifted := by
  cases slot with
  | expanded steps => rfl
  | plain i position =>
      simp only [Slot.shifted, Slot.steps, succ_mem_shiftedClaims]
      split <;> rfl

/-- **What a leading `Version` does to an expansion**: it moves everything one place on. -/
theorem expand_version (hv : v.name = Meta.version.name)
    (htests : ∀ i ∈ xs, i.name = Meta.conditional.name →
      text? i "condition" ≠ some Meta.version.name) :
    expand registry (v :: xs) = (expand registry xs).map (List.map Step.shifted) := by
  rw [← hv] at htests
  have hkind : Meta.ofName? v.name = some .version := by rw [hv, Meta.ofName?_name]
  have hfrom := @expandFrom_shifted registry xs v xs 0 [] htests
  rw [expand, expand, expandFrom, hkind]
  simp only [expandMeta]
  rw [show [0] = shiftedClaims [] from rfl, hfrom]
  cases expandFrom registry xs 0 [] xs with
  | error e => rfl
  | ok expanded =>
      have hslots : (expanded.1.map Slot.shifted).flatMap (Slot.steps (shiftedClaims expanded.2))
          = (expanded.1.flatMap (Slot.steps expanded.2)).map Step.shifted := by
        rw [List.flatMap_map, List.map_flatMap]
        exact List.flatMap_congr fun slot _ => steps_shifted expanded.2 slot
      exact congrArg Except.ok hslots

end Expansion

namespace Plan

open Expansion

/-- **A leading `Version` is a configured standard version.** It demands nothing itself,
nothing tests for it, and nothing requires it: then the request behind it has the same prompt,
or the same error, as if its version had been configured. -/
theorem compose_version {v : Instance} {xs : List Instance} {value : String} {standard : Version}
    {registry : Registry} (hv : v.name = Meta.version.name)
    (hvalue : text? v "standard" = some value) (hparsed : Version.ofString value = .ok standard)
    (hdemands : v.definition.Undemanding) (hxs : ∀ i ∈ xs, i.name ≠ Meta.version.name)
    (htests : ∀ i ∈ xs, i.name = Meta.conditional.name →
      text? i "condition" ≠ some Meta.version.name)
    (hrequired : ∀ steps, expand registry xs = .ok steps →
      ∀ d ∈ involved xs steps, ¬ d.Requires Meta.version.name)
    (config : Config) (base : String) :
    compose registry config (v :: xs) base
      = compose registry { config with standard } xs base := by
  have hfront : standardVersion config (v :: xs) = .ok standard := by
    have hrequested : requestedStandard v = .ok (some standard) := by
      rw [requestedStandard, ← text?, hvalue]
      simp only [hparsed]
    simp only [standardVersion, if_pos hv, hrequested, checkNoVersion_of_ne hxs, Option.getD_some]
  have hconfigured : standardVersion { config with standard } xs = .ok standard :=
    standardVersion_of_ne hxs
  rw [compose_of_standardVersion hfront, compose_of_standardVersion hconfigured,
    expand_version hv htests]
  cases hsteps : expand registry xs with
  | error e => rfl
  | ok steps =>
      have hunrequired : ∀ d ∈ involved ([] ++ xs) (steps.map Step.shifted),
          ¬ d.Requires v.name := by
        rw [hv, List.nil_append, Step.relabels_shifted.involved]
        exact hrequired steps hsteps
      have hcheck : check config standard (v :: xs) (steps.map Step.shifted)
          = check { config with standard } standard xs steps :=
        (check_bystander hdemands hunrequired config standard).trans
          (Step.relabels_shifted.check config standard xs steps)
      simp only [Except.map, Except.bind, hcheck, Step.relabels_shifted.ofSteps]

/-- Asks for the standard version 2.0.0. -/
def second : Instance :=
  ⟨sample ⟨Meta.version.name, rfl⟩ ["standard"] [] rfl, .ofList [("standard", .text "2.0.0")]⟩

/-- Supports no standard version before 2.0.0. -/
def modern : Instance :=
  ⟨{ sample ⟨"Modern", rfl⟩ [] [] rfl with
      template := { instruction := "Be modern." }
      compatibility := { standard := ⟨some { Version.one with major := 2 }, none, trivial⟩ }
      mapped := rfl, consistent := ⟨rfl, rfl, rfl⟩ },
    .empty⟩

/-- `Modern`, scheduled by a `Priority`. -/
def modernFirst : List Instance :=
  [listing .priority ["Modern"], modern]

/-- `Modern` is rejected under the configuration, and composed behind a `Version` that asks
for 2.0.0. -/
theorem compose_version_modern :
    second.name = Meta.version.name ∧ text? second "standard" = some "2.0.0"
      ∧ Version.ofString "2.0.0" = .ok { Version.one with major := 2 }
      ∧ second.definition.Undemanding
      ∧ (∀ i ∈ modernFirst, i.name ≠ Meta.version.name)
      ∧ (∀ steps, expand .empty modernFirst = .ok steps →
          ∀ d ∈ involved modernFirst steps, ¬ d.Requires Meta.version.name)
      ∧ compose .empty {} modernFirst "Why?" = .error (.unsupportedStandard "Modern" .one)
      ∧ compose .empty {} (second :: modernFirst) "Why?" = .ok "Be modern.\n\nWhy?" := by
  have hvalue : text? second "standard" = some "2.0.0" := rfl
  have hparsed : Version.ofString "2.0.0" = .ok { Version.one with major := 2 } := by decide
  have hxs : ∀ i ∈ modernFirst, i.name ≠ Meta.version.name := by decide
  have htests : ∀ i ∈ modernFirst, i.name = Meta.conditional.name →
      text? i "condition" ≠ some Meta.version.name := by decide
  have hrequired : ∀ steps, expand .empty modernFirst = .ok steps →
      ∀ d ∈ involved modernFirst steps, ¬ d.Requires Meta.version.name := by
    intro steps hsteps d hd hrequires
    have hnone : ∀ d ∈ involved modernFirst steps, d.compatibility.requires.toList = [] := by
      obtain rfl := Except.ok.inj (hsteps.symm.trans rfl)
      decide
    obtain ⟨n, hn, -⟩ := hrequires
    rw [hnone d hd] at hn
    cases hn
  refine ⟨rfl, hvalue, hparsed, ⟨rfl, rfl, rfl⟩, hxs, hrequired, rfl, ?_⟩
  rw [compose_version rfl hvalue hparsed ⟨rfl, rfl, rfl⟩ hxs htests hrequired]
  rfl

end Plan

end Decorate
