import Decorate.Proofs.Conservation
import Decorate.Proofs.Indifference
import Decorate.Proofs.Reordering

/-!
# A chain over the whole request

A `Chain` that lists every decorator of a request once is a way to write
the request in another order. It claims each of them by name
(`resolveAll_present`), so nothing is left to stand for itself, and its
steps are those of the listed order (`ChainsAll.expand`). The gate does not
see the chain itself, which is no step and demands nothing, and neither
the gate nor the layout sees who has scheduled a step, so
`compose_chain` has both requests composed to the same prompt.
-/

namespace Decorate

namespace Expansion

variable {registry : Registry} {request : Request}

/-! ## Instances by name -/

/-- The instances of the given names, in the order of the names. -/
def called (names : List String) (xs : List Instance) : List Instance :=
  names.filterMap fun name => xs.find? fun i => i.name == name

section

variable {xs : List Instance} (hdistinct : (xs.map Instance.name).Nodup)

include hdistinct

theorem find?_name {i : Instance} (hi : i ∈ xs) :
    xs.find? (fun j => j.name == i.name) = some i := by
  cases h : xs.find? fun j => j.name == i.name with
  | none => exact absurd (List.find?_eq_none.mp h i hi) (by simp)
  | some j =>
      have hname : j.name = i.name := by simpa using List.find?_some h
      rw [List.inj_on_of_nodup_map hdistinct (List.mem_of_find?_eq_some h) hi hname]

theorem called_names : called (xs.map Instance.name) xs = xs := by
  rw [called, List.filterMap_map]
  exact (List.filterMap_congr fun i hi => find?_name hdistinct hi).trans List.filterMap_some

theorem perm_called {names : List String} (h : names.Perm (xs.map Instance.name)) :
    (called names xs).Perm xs := by
  have hperm := h.filterMap fun name => xs.find? fun i => i.name == name
  rwa [← called, ← called, called_names hdistinct] at hperm

theorem name_called {names : List String} (h : names ⊆ xs.map Instance.name) :
    (called names xs).map Instance.name = names := by
  rw [called, List.map_filterMap]
  refine (List.filterMap_congr fun name hname => ?_).trans List.filterMap_some
  obtain ⟨i, hi, rfl⟩ := List.mem_map.mp (h hname)
  rw [find?_name hdistinct hi]
  rfl

end

/-! ## Claiming everybody -/

/-- Where names are distinct, so are the places of instances. -/
theorem place_unique (hdistinct : (request.map Instance.name).Nodup) {i j : Instance} {p q : Nat}
    (hp : request[p]? = some i) (hq : request[q]? = some j) (hname : i.name = j.name) : p = q := by
  have hp' : (request.map Instance.name)[p]? = some i.name := by
    rw [List.getElem?_map, hp, Option.map_some]
  have hq' : (request.map Instance.name)[q]? = some i.name := by
    rw [List.getElem?_map, hq, Option.map_some, hname]
  exact (List.getElem?_inj (List.getElem?_eq_some_iff.mp hp').1 hdistinct).mp (hp'.trans hq'.symm)

/-- An unclaimed instance is claimed by its name. -/
theorem unclaimed?_of_distinct (hdistinct : (request.map Instance.name).Nodup) {claims : Claims}
    {i : Instance} {p : Nat} (hi : request[p]? = some i) (hfree : p ∉ claims) :
    unclaimed? request claims i.name = some (p, i) := by
  cases h : unclaimed? request claims i.name with
  | none => exact absurd (unclaimed?_eq_none h (isAt_iff.mpr ⟨i, hi, rfl⟩)) hfree
  | some found =>
      obtain ⟨q, j⟩ := found
      obtain ⟨hj, hname, -, -⟩ := unclaimed?_eq_some h
      obtain rfl : q = p := place_unique hdistinct hj hi hname
      rw [Option.some.inj (hj.symm.trans hi)]

/-- Names of unclaimed instances are resolved to these, in the order of the names, and to
nothing from the registry. -/
theorem resolveAll_present (hdistinct : (request.map Instance.name).Nodup) (referring : String)
    (strict : Bool) :
    ∀ {ys : List Instance} {claims : Claims}, (ys.map Instance.name).Nodup →
      (∀ i ∈ ys, Meta.ofName? i.name = none) →
      (∀ i ∈ ys, ∃ p, request[p]? = some i ∧ p ∉ claims) →
      ∃ members claims',
        resolveAll registry request referring strict claims (ys.map Instance.name)
            = .ok (members, claims')
          ∧ members.map Member.inst = ys ∧ claims ⊆ claims'
          ∧ ∀ i ∈ ys, ∀ p, request[p]? = some i → p ∈ claims'
  | [], claims, _, _, _ =>
      ⟨[], claims, rfl, rfl, List.Subset.refl _, fun _ hi => nomatch hi⟩
  | i :: rest, claims, hnodup, hordinary, hfree => by
      obtain ⟨hfresh, hnodup⟩ := List.nodup_cons.mp hnodup
      obtain ⟨hi, hordinary⟩ := List.forall_mem_cons.mp hordinary
      obtain ⟨⟨p, hp, hpfree⟩, hfree⟩ := List.forall_mem_cons.mp hfree
      -- the place that is claimed now belongs to none of the other names
      have hfree' : ∀ j ∈ rest, ∃ q, request[q]? = some j ∧ q ∉ p :: claims := by
        intro j hj
        obtain ⟨q, hq, hqfree⟩ := hfree j hj
        refine ⟨q, hq, fun hmem => ?_⟩
        rcases List.mem_cons.mp hmem with rfl | hmem
        · obtain rfl := Option.some.inj (hq.symm.trans hp)
          exact hfresh (List.mem_map_of_mem hj)
        · exact hqfree hmem
      have hfirst : resolve registry request referring strict claims i.name
          = .ok (some ⟨i, .request p⟩, p :: claims) := by
        rw [resolve, hi, unclaimed?_of_distinct hdistinct hp hpfree]
        rfl
      obtain ⟨members, claims', hrest, hinst, hsub, hclaimed⟩ :=
        resolveAll_present hdistinct referring strict hnodup hordinary hfree'
      refine ⟨⟨i, .request p⟩ :: members, claims', ?_, by rw [List.map_cons, hinst], ?_, ?_⟩
      · rw [List.map_cons, resolveAll, hfirst]
        simp only
        rw [hrest]
        rfl
      · exact fun q hq => hsub (List.mem_cons_of_mem p hq)
      · refine List.forall_mem_cons.mpr ⟨fun q hq => ?_, hclaimed⟩
        obtain rfl : p = q := place_unique hdistinct hp hq rfl
        exact hsub List.mem_cons_self

/-! ## The expanded chain -/

/-- A `Chain` that lists the decorators around it, each of them once. -/
structure ChainsAll (c : Instance) (xs : List Instance) : Prop where
  isChain : c.name = Meta.chain.name
  ordinary : ∀ i ∈ xs, Meta.ofName? i.name = none
  distinct : (xs.map Instance.name).Nodup
  lists : (names c "decorators").Perm (xs.map Instance.name)

/-- Claimed instances do not stand for themselves. -/
theorem steps_of_claimed {claims : Claims} :
    ∀ {xs : List Instance} {position : Nat},
      (∀ k i, xs[k]? = some i → position + k ∈ claims) →
      ((xs.zipIdx position).map fun (i, p) => Slot.plain i p).flatMap (Slot.steps claims) = []
  | [], _, _ => rfl
  | i :: rest, position, h => by
      have hfirst : position ∈ claims := h 0 i rfl
      have hrest : ∀ k j, rest[k]? = some j → position + 1 + k ∈ claims := fun k j hj => by
        rw [Nat.add_assoc, Nat.add_comm 1]
        exact h (k + 1) j hj
      rw [List.zipIdx_cons, List.map_cons, List.flatMap_cons, steps_of_claimed hrest, Slot.steps,
        if_pos hfirst]
      rfl

namespace ChainsAll

variable {before after : List Instance} {c : Instance} (h : ChainsAll c (before ++ after))

include h

theorem kind : Meta.ofName? c.name = some .chain := by rw [h.isChain, Meta.ofName?_name]

theorem ne_of_mem {i : Instance} (hi : i ∈ before ++ after) : i.name ≠ c.name := fun hname => by
  have hnone := h.ordinary i hi
  rw [hname, h.kind] at hnone
  cases hnone

theorem distinct_request : ((before ++ c :: after).map Instance.name).Nodup := by
  have hperm : (before ++ c :: after).Perm (c :: (before ++ after)) := List.perm_middle
  refine (hperm.map Instance.name).nodup_iff.mpr (List.nodup_cons.mpr ⟨fun hmem => ?_, h.distinct⟩)
  obtain ⟨i, hi, hname⟩ := List.mem_map.mp hmem
  exact h.ne_of_mem hi hname

theorem perm : (called (names c "decorators") (before ++ after)).Perm (before ++ after) :=
  perm_called h.distinct h.lists

theorem ordinary_called : ∀ i ∈ called (names c "decorators") (before ++ after),
    Meta.ofName? i.name = none := fun i hi => h.ordinary i (h.perm.subset hi)

/-- The names resolve to the instances around the chain, and none of these stays unclaimed. -/
theorem resolveAll_names (registry : Registry) (strict : Bool) :
    ∃ members claims,
      resolveAll registry (before ++ c :: after) c.name strict [before.length]
          (names c "decorators") = .ok (members, claims)
        ∧ members.map Member.inst = called (names c "decorators") (before ++ after)
        ∧ ∀ p, isOrdinary (before ++ c :: after) p = true → p ∈ claims := by
  have hplace : (before ++ c :: after)[before.length]? = some c := by
    rw [List.getElem?_append_right (Nat.le_refl _), Nat.sub_self, List.getElem?_cons_zero]
  have hdistinct := (h.perm.map Instance.name).nodup_iff.mpr h.distinct
  have hfree : ∀ i ∈ called (names c "decorators") (before ++ after),
      ∃ p, (before ++ c :: after)[p]? = some i ∧ p ∉ [before.length] := by
    intro i hi
    have hmem : i ∈ before ++ c :: after :=
      List.perm_middle.mem_iff.mpr (List.mem_cons_of_mem c (h.perm.subset hi))
    obtain ⟨p, hp⟩ := List.mem_iff_getElem?.mp hmem
    refine ⟨p, hp, fun hclaimed => h.ne_of_mem (h.perm.subset hi) ?_⟩
    rw [List.mem_singleton.mp hclaimed, hplace] at hp
    rw [Option.some.inj hp]
  obtain ⟨members, claims, hresolve, hinst, -, hclaimed⟩ :=
    @resolveAll_present registry _ h.distinct_request c.name strict _ _ hdistinct
      h.ordinary_called hfree
  rw [name_called h.distinct h.lists.subset] at hresolve
  refine ⟨members, claims, hresolve, hinst, fun p hp => ?_⟩
  obtain ⟨i, hi, hnone⟩ := isOrdinary_iff.mp hp
  refine hclaimed i (h.perm.mem_iff.mpr ?_) p hi
  rcases List.mem_cons.mp (List.perm_middle.mem_iff.mp (List.mem_of_getElem? hi)) with rfl | hmem
  · cases hnone.symm.trans h.kind
  · exact hmem

/-- The steps are the instances around the chain, in the order in which it lists them. -/
theorem expand (registry : Registry) :
    ∃ members : List Member,
      members.map Member.inst = called (names c "decorators") (before ++ after)
        ∧ Expansion.expand registry (before ++ c :: after)
            = .ok (members.map (stepOf · (some Meta.chain.name))) := by
  obtain ⟨members, claims, hresolve, hinst, hclaimed⟩ :=
    h.resolveAll_names registry (flag c "stopOnFailure" true)
  obtain ⟨hbefore, hafter⟩ := List.forall_mem_append.mp h.ordinary
  have hstepsBefore : ∀ k i, before[k]? = some i → 0 + k ∈ claims := fun k i hk => by
    refine hclaimed _ (isOrdinary_iff.mpr ⟨i, ?_, hbefore i (List.mem_of_getElem? hk)⟩)
    rw [Nat.zero_add, List.getElem?_append_left (List.getElem?_eq_some_iff.mp hk).1, hk]
  have hstepsAfter : ∀ k i, after[k]? = some i → before.length + 1 + k ∈ claims := fun k i hk => by
    refine hclaimed _ (isOrdinary_iff.mpr ⟨i, ?_, hafter i (List.mem_of_getElem? hk)⟩)
    have hindex : before.length + 1 + k - before.length = k + 1 := by omega
    rw [List.getElem?_append_right (by omega), hindex, List.getElem?_cons_succ, hk]
  refine ⟨members, hinst, ?_⟩
  rw [Expansion.expand, expandFrom_ordinary_append hbefore, Nat.zero_add, expandFrom, h.kind]
  simp only [expandMeta, hresolve]
  rw [expandFrom_of_ordinary hafter]
  simp only [Except.map, List.flatMap_append, List.flatMap_cons, Slot.steps,
    steps_of_claimed hstepsBefore, steps_of_claimed hstepsAfter, List.nil_append, List.append_nil]

end ChainsAll

end Expansion

namespace Plan

open Expansion

variable {before after : List Instance} {c : Instance}

/-- A step without where it comes from and who scheduled it. -/
def anonymous (s : Step) : Step := { s with origin := .registry, introducedBy := none }

theorem relabels_anonymous : Step.Relabels anonymous where
  inst _ := rfl
  behavior _ := rfl
  subordinateTo _ := rfl
  sharesPriority _ _ := rfl

theorem anonymous_chained (members : List Member) :
    (members.map (stepOf · (some Meta.chain.name))).map anonymous
      = (standAlone 0 (members.map Member.inst)).map anonymous := by
  have hstandAlone : ∀ xs : List Instance, (standAlone 0 xs).map anonymous
      = xs.map fun i => stepOf ⟨i, .registry⟩ none := fun xs => by
    rw [← unplaced_standAlone 0 xs, standAlone, List.map_map, List.map_map]
    rfl
  rw [hstandAlone, List.map_map, List.map_map]
  rfl

/-- Where members are taken from the request, the definitions involved are those of the
request. -/
theorem exists_of_involved {xs : List Instance} {members : List Member}
    {introducedBy : Option String} (hmembers : members.map Member.inst ⊆ xs) {d : Definition}
    (hd : d ∈ involved xs (members.map (stepOf · introducedBy))) :
    ∃ i ∈ xs, i.definition = d := by
  rcases List.mem_append.mp hd with hd | hd
  · exact List.mem_map.mp hd
  · rw [List.map_map] at hd
    obtain ⟨m, hm, rfl⟩ := List.mem_map.mp hd
    exact ⟨m.inst, hmembers (List.mem_map_of_mem hm), rfl⟩

/-- **A chain over the whole request is the request in another order.** Wherever a `Chain`
stands that lists all the other decorators once each, and demands nothing itself, it leads to
the same prompts as the others do in the order of its list. -/
theorem compose_chain (h : ChainsAll c (before ++ after)) (hdemands : c.definition.Undemanding)
    (hrequired : ∀ i ∈ before ++ after, ¬ i.definition.Requires Meta.chain.name)
    (registry : Registry) (config : Config) (base prompt : String) :
    compose registry config (before ++ c :: after) base = .ok prompt ↔
      compose registry config (called (names c "decorators") (before ++ after)) base
        = .ok prompt := by
  obtain ⟨members, hinst, hexpand⟩ := h.expand registry
  have hne : ∀ i ∈ before ++ c :: after, i.name ≠ Meta.version.name := by
    intro i hi
    rcases List.mem_cons.mp (List.perm_middle.mem_iff.mp hi) with rfl | hi
    · rw [h.isChain]
      decide
    · exact ne_version_of_ordinary (h.ordinary i hi)
  have hne' : ∀ i ∈ called (names c "decorators") (before ++ after),
      i.name ≠ Meta.version.name := fun i hi => ne_version_of_ordinary (h.ordinary_called i hi)
  have hunrequired : ∀ d ∈ involved (before ++ after)
      (members.map (stepOf · (some Meta.chain.name))), ¬ d.Requires c.name := by
    intro d hd
    obtain ⟨i, hi, rfl⟩ := exists_of_involved (hinst ▸ h.perm.subset) hd
    rw [h.isChain]
    exact hrequired i hi
  have hsame := anonymous_chained members
  rw [hinst] at hsame
  rw [compose_of_expand (standardVersion_of_ne hne) hexpand,
    compose_of_expand (standardVersion_of_ne hne')
      (@expand_front registry [] _ (Or.inl rfl) h.ordinary_called),
    check_bystander hdemands hunrequired, relabels_anonymous.check_congr hsame,
    relabels_anonymous.ofSteps_congr hsame]
  exact (check_alike ⟨h.perm.symm, List.Perm.refl _⟩ config.standard).map_eq_ok_iff _ _

/-- A decorator that puts a text in front of the prompt. -/
def saying (name : Name) (text : String) : Instance :=
  ⟨{ sample name [] [] rfl with
      template := { instruction := text }, mapped := rfl, consistent := ⟨rfl, rfl, rfl⟩ }, .empty⟩

/-- A decorator that arranges those of the given names. -/
def listing (kind : Meta) (names : List String) : Instance :=
  ⟨sample ⟨kind.name, by cases kind <;> rfl⟩ [] ["decorators"] (by cases kind <;> rfl),
    .ofList [("decorators", .list (names.map .text))]⟩

theorem saying_requires_nothing (name : Name) (text other : String) :
    ¬ (saying name text).definition.Requires other := fun ⟨_, hn, _⟩ => nomatch hn

/-- The chain between two decorators has them change places. -/
theorem compose_chain_between :
    ∃ before after,
      ChainsAll (listing .chain ["Brief", "Formal"]) (before ++ after)
        ∧ (listing .chain ["Brief", "Formal"]).definition.Undemanding
        ∧ (∀ i ∈ before ++ after, ¬ i.definition.Requires Meta.chain.name)
        ∧ before.map Instance.name = ["Formal"] ∧ after.map Instance.name = ["Brief"]
        ∧ compose .empty {} (before ++ listing .chain ["Brief", "Formal"] :: after) "Why?"
          = .ok "Be brief.\n\nBe formal.\n\nWhy?" := by
  let before := [saying ⟨"Formal", rfl⟩ "Be formal."]
  let after := [saying ⟨"Brief", rfl⟩ "Be brief."]
  have hchains : ChainsAll (listing .chain ["Brief", "Formal"]) (before ++ after) :=
    ⟨rfl, by decide, by decide, by decide⟩
  have hdemands : (listing .chain ["Brief", "Formal"]).definition.Undemanding := ⟨rfl, rfl, rfl⟩
  have hrequired : ∀ i ∈ before ++ after, ¬ i.definition.Requires Meta.chain.name :=
    List.forall_mem_cons.mpr
      ⟨saying_requires_nothing _ _ _, List.forall_mem_singleton.mpr (saying_requires_nothing _ _ _)⟩
  exact ⟨before, after, hchains, hdemands, hrequired, rfl, rfl,
    (compose_chain hchains hdemands hrequired .empty {} "Why?" _).mpr rfl⟩

end Plan

end Decorate
