import Decorate.Proofs.Gating

/-!
# The order of a request

Where no decorator arranges others, the order of a request shows in the
order of its steps and in nothing else. `ofRequest_arranged` is that
law: a request and any rearrangement of it are both planned or both
rejected, for the same kind of reason.

The gate only sees which definitions take part, which names are there
and which steps conflict, and a conflict counts in either direction
(`compatible_iff`). All of this survives a rearrangement
(`Rearranges`), so each check has the same outcome in both requests,
and so have checks in a row (`Alike.bind`).
-/

namespace Decorate

/-! ## Arrangements -/

/-- The elements at the given places, in the order of the places. -/
def arranged {α : Type} (order : List Nat) (xs : List α) : List α :=
  order.filterMap fun p => xs[p]?

theorem arranged_map {α β : Type} (f : α → β) (order : List Nat) (xs : List α) :
    arranged order (xs.map f) = (arranged order xs).map f := by
  unfold arranged
  rw [List.map_filterMap]
  exact List.filterMap_congr fun p _ => List.getElem?_map

theorem arranged_range {α : Type} : ∀ xs : List α, arranged (List.range xs.length) xs = xs
  | [] => rfl
  | x :: rest => by
      have hhead : (fun p => (x :: rest)[p]?) 0 = some x := rfl
      rw [arranged, List.length_cons, List.range_succ_eq_map, List.filterMap_cons_some hhead,
        List.filterMap_map]
      exact congrArg (x :: ·) (arranged_range rest)

theorem perm_arranged {α : Type} {order : List Nat} {xs : List α}
    (h : order.Perm (List.range xs.length)) : (arranged order xs).Perm xs := by
  have hperm := h.filterMap fun p => xs[p]?
  rwa [← arranged, ← arranged, arranged_range] at hperm

/-- The step without the place from which its instance was taken. -/
def Step.unplaced (s : Step) : Step := { s with origin := .registry }

/-- The errors are built alike, whatever they name. -/
def PlanError.SameVariant (e e' : PlanError) : Prop := e.ctorIdx = e'.ctorIdx

/-! ## Requests in which nothing arranges others -/

namespace Expansion

/-- The steps of instances that stand for themselves, the first of them at `position`. -/
def standAlone (position : Nat) (xs : List Instance) : List Step :=
  (xs.zipIdx position).map fun (i, p) => stepOf ⟨i, .request p⟩ none

theorem inst_standAlone (position : Nat) (xs : List Instance) :
    (standAlone position xs).map Step.inst = xs := by
  rw [standAlone, List.map_map]
  exact List.zipIdx_map_fst position xs

theorem unplaced_standAlone (position : Nat) (xs : List Instance) :
    (standAlone position xs).map Step.unplaced
      = xs.map fun i => stepOf ⟨i, .registry⟩ none := by
  rw [standAlone, List.map_map]
  conv_rhs => rw [← List.zipIdx_map_fst position xs, List.map_map]
  rfl

/-- Nothing, or a `Version` decorator. -/
def IsFront (front : List Instance) : Prop :=
  front = [] ∨ ∃ v, front = [v] ∧ v.name = Meta.version.name

variable {registry : Registry} {request : Request} {front xs : List Instance}

/-- Decorators that do not arrange others make no claims. -/
theorem expandFrom_ordinary_append {claims : Claims} {rest : List Instance} :
    ∀ {xs : List Instance} {position : Nat}, (∀ i ∈ xs, Meta.ofName? i.name = none) →
      expandFrom registry request position claims (xs ++ rest)
        = (expandFrom registry request (position + xs.length) claims rest).map
            fun (slots, claims) =>
              (((xs.zipIdx position).map fun (i, p) => .plain i p) ++ slots, claims)
  | [], position, _ => by
      rw [List.nil_append, List.length_nil, Nat.add_zero]
      cases expandFrom registry request position claims rest <;> rfl
  | i :: xs, position, h => by
      obtain ⟨hi, hxs⟩ := List.forall_mem_cons.mp h
      rw [List.cons_append, expandFrom, hi, expandFrom_ordinary_append hxs, List.length_cons,
        Nat.add_right_comm, ← Nat.add_assoc]
      cases expandFrom registry request (position + xs.length + 1) claims rest <;> rfl

theorem expandFrom_of_ordinary {claims : Claims} {xs : List Instance} {position : Nat}
    (h : ∀ i ∈ xs, Meta.ofName? i.name = none) :
    expandFrom registry request position claims xs
      = .ok ((xs.zipIdx position).map fun (i, p) => .plain i p, claims) := by
  have happend := @expandFrom_ordinary_append registry request claims [] xs position h
  rw [List.append_nil] at happend
  rw [happend, expandFrom, Except.map]
  simp only [List.append_nil]

theorem steps_of_plain {claims : Claims} :
    ∀ (xs : List Instance) {position : Nat}, (∀ p ∈ claims, p < position) →
      ((xs.zipIdx position).map fun (i, p) => Slot.plain i p).flatMap (Slot.steps claims)
        = standAlone position xs
  | [], _, _ => rfl
  | i :: rest, position, h => by
      have hnot : position ∉ claims := fun hmem => Nat.lt_irrefl _ (h position hmem)
      have hrest := steps_of_plain rest fun p hp => Nat.lt_succ_of_lt (h p hp)
      rw [List.zipIdx_cons, List.map_cons, List.flatMap_cons, hrest, Slot.steps, if_neg hnot]
      rfl

theorem expand_front (hfront : IsFront front) (hxs : ∀ i ∈ xs, Meta.ofName? i.name = none) :
    expand registry (front ++ xs) = .ok (standAlone front.length xs) := by
  rcases hfront with rfl | ⟨v, rfl, hv⟩
  · unfold expand
    rw [List.nil_append, expandFrom_of_ordinary hxs]
    exact congrArg Except.ok (steps_of_plain xs fun _ hp => nomatch hp)
  · have hkind : Meta.ofName? v.name = some .version := by rw [hv, Meta.ofName?_name]
    have hclaims : ∀ p ∈ [0], p < 1 := fun p hp => by simpa using hp
    unfold expand
    rw [List.cons_append, List.nil_append, expandFrom, hkind]
    simp only [expandMeta, expandFrom_of_ordinary hxs]
    rw [List.flatMap_cons, steps_of_plain xs hclaims]
    rfl

end Expansion

namespace Plan

open Expansion

variable {registry : Registry} {config : Config} {front xs : List Instance}

theorem ne_version_of_ordinary {i : Instance} (h : Meta.ofName? i.name = none) :
    i.name ≠ Meta.version.name := fun hname => by
  rw [hname, Meta.ofName?_name] at h
  cases h

theorem checkNoVersion_of_ne :
    ∀ {xs : List Instance} {position : Nat}, (∀ i ∈ xs, i.name ≠ Meta.version.name) →
      checkNoVersion position xs = .ok ()
  | [], _, _ => rfl
  | i :: rest, position, h => by
      obtain ⟨hi, hrest⟩ := List.forall_mem_cons.mp h
      rw [checkNoVersion, if_neg hi, checkNoVersion_of_ne hrest]

/-- Without a `Version` decorator the standard version is the configured one. -/
theorem standardVersion_of_ne (h : ∀ i ∈ xs, i.name ≠ Meta.version.name) :
    standardVersion config xs = .ok config.standard := by
  cases xs with
  | nil => rfl
  | cons i rest =>
      obtain ⟨hi, hrest⟩ := List.forall_mem_cons.mp h
      simp only [standardVersion, if_neg hi, checkNoVersion_of_ne hrest, Option.getD_none]

/-- The standard version is up to what stands in front. -/
theorem standardVersion_front (hfront : IsFront front)
    (hxs : ∀ i ∈ xs, Meta.ofName? i.name = none) :
    standardVersion config (front ++ xs) = standardVersion config front := by
  have hne : ∀ i ∈ xs, i.name ≠ Meta.version.name := fun i hi => ne_version_of_ordinary (hxs i hi)
  rcases hfront with rfl | ⟨v, rfl, -⟩
  · exact standardVersion_of_ne hne
  · rw [List.cons_append, List.nil_append, standardVersion, standardVersion,
      checkNoVersion_of_ne hne]
    rfl

/-! ## What the gate sees -/

theorem Conflicting.symm {s t : Step} (h : Conflicting s t) : Conflicting t s := by
  obtain ⟨hname, hgroup, hdeclared⟩ := h
  exact ⟨hname.symm, fun ⟨g, ht, hs⟩ => hgroup ⟨g, hs, ht⟩, hdeclared.symm⟩

/-- Conflicts need no places: no two steps may be in one. -/
theorem compatible_iff {steps : List Step} :
    (∀ p q, ¬ Offends steps p q) ↔
      ∀ s ∈ steps.map Step.unplaced, ∀ t ∈ steps.map Step.unplaced, ¬ Conflicting s t := by
  simp only [List.forall_mem_map]
  constructor
  · intro h s hs t ht hst
    obtain ⟨p, hp⟩ := List.mem_iff_getElem?.mp hs
    obtain ⟨q, hq⟩ := List.mem_iff_getElem?.mp ht
    rcases Nat.lt_trichotomy p q with hlt | rfl | hlt
    · exact h p q ⟨hlt, s, t, hp, hq, hst⟩
    · obtain rfl := Option.some.inj (hp.symm.trans hq)
      exact hst.1 rfl
    · exact h q p ⟨hlt, t, s, hq, hp, hst.symm⟩
  · rintro h p q ⟨-, s, t, hs, ht, hst⟩
    exact h s (List.mem_of_getElem? hs) t (List.mem_of_getElem? ht) hst

/-- The same instances are requested, and the same steps scheduled, in another order. -/
structure Rearranges (request : List Instance) (steps : List Step) (request' : List Instance)
    (steps' : List Step) : Prop where
  request : request.Perm request'
  steps : (steps.map Step.unplaced).Perm (steps'.map Step.unplaced)

namespace Rearranges

variable {request request' : List Instance} {steps steps' : List Step}
  (h : Rearranges request steps request' steps')

include h

theorem map_perm {α : Type} {f : Step → α} (hf : ∀ s, f s.unplaced = f s) :
    (steps.map f).Perm (steps'.map f) := by
  have hmap : ∀ ss : List Step, ss.map f = (ss.map Step.unplaced).map f := fun ss => by
    rw [List.map_map]
    exact List.map_congr_left fun s _ => (hf s).symm
  rw [hmap steps, hmap steps']
  exact h.steps.map f

theorem compatible :
    (∀ p q, ¬ Offends steps p q) ↔ ∀ p q, ¬ Offends steps' p q := by
  simp only [compatible_iff, h.steps.mem_iff]

theorem involved_iff {p : Definition → Prop} :
    (∀ d ∈ involved request steps, p d) ↔ ∀ d ∈ involved request' steps', p d := by
  have hperm : (involved request steps).Perm (involved request' steps') :=
    (h.request.map _).append (h.map_perm fun _ => rfl)
  simp only [hperm.mem_iff]

theorem complete_iff {d : Definition} : Complete request steps d ↔ Complete request' steps' d := by
  have hperm : (presentNames request steps).Perm (presentNames request' steps') :=
    (h.request.map _).append (h.map_perm fun _ => rfl)
  unfold Complete
  simp only [← mem_presentNames, hperm.mem_iff]

theorem single : steps.countP (fun s => Replaces s) = steps'.countP (fun s => Replaces s) := by
  have hcount : ∀ ss : List Step, ss.countP (fun s => Replaces s)
      = (ss.map Step.placement).countP fun p => p = .override ∨ p = .replace := fun ss => by
    rw [List.countP_map]
    rfl
  rw [hcount, hcount]
  exact (h.map_perm fun _ => rfl).countP_eq _

end Rearranges

/-! ## The same outcome -/

/-- Both succeed, or both fail with errors of the same variant. -/
def Alike {α β : Type} : Except PlanError α → Except PlanError β → Prop
  | .ok _, .ok _ => True
  | .error e, .error e' => e.SameVariant e'
  | _, _ => False

theorem Alike.bind {first first' second second' : Except PlanError Unit} (h₁ : Alike first first')
    (h₂ : Alike second second') :
    Alike (first >>= fun _ => second) (first' >>= fun _ => second') := by
  cases first <;> cases first'
  · exact h₁
  · exact h₁.elim
  · exact h₁.elim
  · exact h₂

theorem Alike.map_eq_ok_iff {α : Type} {a b : Except PlanError Unit} (h : Alike a b) (x y : α) :
    a.map (fun _ => x) = .ok y ↔ b.map (fun _ => x) = .ok y := by
  cases a <;> cases b
  · exact ⟨nofun, nofun⟩
  · exact h.elim
  · exact h.elim
  · exact Iff.rfl

/-- Two checks that decide the same rule, and whose errors are all of one variant. -/
theorem Decides.alike {check check' : Except PlanError Unit} {rule rule' : Prop}
    {fault fault' : PlanError → Prop} (h : Decides check rule fault)
    (h' : Decides check' rule' fault') (hrule : rule ↔ rule')
    (hfault : ∀ e e', fault e → fault' e' → e.SameVariant e') : Alike check check' := by
  cases hc : check with
  | ok u =>
      have hc' : check' = .ok () := h'.accepts.mpr (hrule.mp (h.accepts.mp hc))
      rw [hc']
      trivial
  | error e =>
      cases hc' : check' with
      | ok u =>
          have hok : check = .ok () := h.accepts.mpr (hrule.mpr (h'.accepts.mp hc'))
          cases hok.symm.trans hc
      | error e' => exact hfault e e' ((h.refuses e).mp hc) ((h'.refuses e').mp hc')

theorem check_alike {request request' : List Instance} {steps steps' : List Step}
    (h : Rearranges request steps request' steps') (standard : Version) :
    Alike (check config standard request steps) (check config standard request' steps') := by
  refine Alike.bind ?_ <| Alike.bind ?_ <| Alike.bind ?_ <| Alike.bind ?_ ?_
  · refine (decides_conflicts steps).alike (decides_conflicts steps') h.compatible ?_
    rintro _ _ ⟨-, -, -, -, -, -, -, rfl⟩ ⟨-, -, -, -, -, -, -, rfl⟩
    rfl
  · refine (decides_requirements request steps _).alike (decides_requirements request' steps' _)
      ?_ ?_
    · simp only [h.complete_iff]
      exact h.involved_iff
    · rintro _ _ ⟨-, -, rfl⟩ ⟨-, -, rfl⟩
      rfl
  · refine (decides_standard standard _).alike (decides_standard standard _) h.involved_iff ?_
    rintro _ _ ⟨-, -, rfl⟩ ⟨-, -, rfl⟩
    rfl
  · refine (decides_models config _).alike (decides_models config _) h.involved_iff ?_
    rintro _ _ ⟨-, -, -, -, rfl⟩ ⟨-, -, -, -, rfl⟩
    rfl
  · refine (decides_replacements steps).alike (decides_replacements steps') (by rw [h.single]) ?_
    rintro _ _ ⟨-, -, -, -, -, -, -, -, -, rfl⟩ ⟨-, -, -, -, -, -, -, -, -, rfl⟩
    rfl

/-! ## Rearranged requests -/

theorem ofRequest_front (hfront : IsFront front) (hxs : ∀ i ∈ xs, Meta.ofName? i.name = none) :
    ofRequest registry config (front ++ xs) = do
      let standard ← standardVersion config front
      check config standard (front ++ xs) (standAlone front.length xs)
      return ⟨standard, standAlone front.length xs⟩ := by
  unfold ofRequest
  rw [standardVersion_front hfront hxs, expand_front hfront hxs]
  rfl

/-- **The order of a request does not decide whether it is rejected.** Behind a `Version`
decorator, if there is one, the instances of a request can be rearranged at will: either both
requests are planned, and their steps are rearranged in the same way, or both are rejected
with errors of the same variant. -/
theorem ofRequest_arranged {order : List Nat} (hfront : IsFront front)
    (hxs : ∀ i ∈ xs, Meta.ofName? i.name = none) (horder : order.Perm (List.range xs.length)) :
    (∃ plan plan', ofRequest registry config (front ++ xs) = .ok plan
        ∧ ofRequest registry config (front ++ arranged order xs) = .ok plan'
        ∧ plan'.standard = plan.standard ∧ plan.steps.map Step.inst = xs
        ∧ plan'.steps.map Step.unplaced = arranged order (plan.steps.map Step.unplaced))
      ∨ ∃ e e', ofRequest registry config (front ++ xs) = .error e
          ∧ ofRequest registry config (front ++ arranged order xs) = .error e'
          ∧ e.SameVariant e' := by
  have hperm : xs.Perm (arranged order xs) := (perm_arranged horder).symm
  have hys : ∀ i ∈ arranged order xs, Meta.ofName? i.name = none := fun i hi =>
    hxs i (hperm.mem_iff.mpr hi)
  have hrearranges : Rearranges (front ++ xs) (standAlone front.length xs)
      (front ++ arranged order xs) (standAlone front.length (arranged order xs)) := by
    refine ⟨hperm.append_left front, ?_⟩
    rw [unplaced_standAlone, unplaced_standAlone]
    exact hperm.map _
  rw [ofRequest_front hfront hxs, ofRequest_front hfront hys]
  cases standardVersion config front with
  | error e => exact Or.inr ⟨e, e, rfl, rfl, rfl⟩
  | ok standard =>
      have halike := @check_alike config _ _ _ _ hrearranges standard
      simp only [bind, Except.bind]
      revert halike
      cases check config standard (front ++ xs) (standAlone front.length xs) with
      | error e =>
          cases check config standard (front ++ arranged order xs)
              (standAlone front.length (arranged order xs)) with
          | error e' => exact fun halike => Or.inr ⟨e, e', rfl, rfl, halike⟩
          | ok u => exact False.elim
      | ok u =>
          cases check config standard (front ++ arranged order xs)
              (standAlone front.length (arranged order xs)) with
          | error e' => exact False.elim
          | ok u =>
              refine fun _ => Or.inl ⟨_, _, rfl, rfl, rfl, inst_standAlone _ _, ?_⟩
              simp only [unplaced_standAlone, arranged_map]

/-- A `Version` decorator that leaves the standard version to the configuration. -/
def edition : Instance := ⟨opponent ⟨"Version", rfl⟩ [] ⟨rfl, rfl, rfl⟩, .empty⟩

def brief : Instance := ⟨opponent ⟨"Brief", rfl⟩ [] ⟨rfl, rfl, rfl⟩, .empty⟩

/-- `Terse` and `Verbose` are rejected in either order, `Terse` and `Brief` planned in
either. -/
theorem ofRequest_swapped :
    IsFront [edition] ∧ [1, 0].Perm (List.range 2)
      ∧ (∃ e e', ofRequest .empty {} [edition, verbose, terse] = .error e
          ∧ ofRequest .empty {} [edition, terse, verbose] = .error e' ∧ e.SameVariant e')
      ∧ ∃ plan plan', ofRequest .empty {} [edition, terse, brief] = .ok plan
          ∧ ofRequest .empty {} [edition, brief, terse] = .ok plan'
          ∧ plan.steps.map Step.inst = [terse, brief]
          ∧ plan'.steps.map Step.unplaced = arranged [1, 0] (plan.steps.map Step.unplaced) := by
  have hfront : IsFront [edition] := Or.inr ⟨edition, rfl, rfl⟩
  have hswap : [1, 0].Perm (List.range 2) := List.Perm.swap 0 1 []
  refine ⟨hfront, hswap, ?_, ?_⟩
  · have hrefused : ofRequest .empty {} [edition, verbose, terse]
        = .error (.conflict "Verbose" "Terse") := by decide
    rcases @ofRequest_arranged .empty {} [edition] [verbose, terse] [1, 0] hfront (by decide)
      hswap with ⟨plan, -, hplan, -⟩ | h
    · cases hrefused.symm.trans hplan
    · exact h
  · have hplanned : ∃ plan, ofRequest .empty {} [edition, terse, brief] = .ok plan := ⟨_, rfl⟩
    rcases @ofRequest_arranged .empty {} [edition] [terse, brief] [1, 0] hfront (by decide)
      hswap with ⟨plan, plan', hplan, hplan', -, hinst, harranged⟩ | ⟨e, -, he, -⟩
    · exact ⟨plan, plan', hplan, hplan', hinst, harranged⟩
    · obtain ⟨plan, hplan⟩ := hplanned
      cases hplan.symm.trans he

end Plan

end Decorate
