import Decorate.Proofs.Branches
import Decorate.Proofs.Layout
import Decorate.Proofs.Requirements

/-!
# Priorities

A `Priority` turns the decorators that it lists into steps by falling
priority, its `ranking`. What becomes of them depends on its mode
(`RankedBy`, `Keeps`): where it overrides, only the first of each
placement stays; otherwise all stay, and accumulate.

All of its steps are in the group of its place, and no other step is
(`exists_arranges_inGroup`). Conflicts are excused within a group and
nowhere else (`Plan.settlesConflicts_inGroup`), and what accumulates is
never lost from the output (`Plan.retainsTexts`).
`Plan.expand_prioritized` puts this together for every `Priority` of
every request that can be expanded.
-/

namespace Decorate

namespace Expansion

variable {registry : Registry} {request : Request} {steps : List Step} {position : Nat}
  {i : Instance} {claims claims' final : Claims}

/-! ## Rankings -/

/-- One step for each member, by falling priority. -/
def ranking (mode : PriorityMode) (explicit : Bool) (group : Nat) : List Member → List Step
  | [] => []
  | first :: rest =>
    ranked mode none group first
      :: rest.map (ranked mode (if explicit then some first.name else none) group)

theorem prioritize_eq (mode : PriorityMode) (explicit : Bool) (group : Nat)
    (members : List Member) :
    prioritize mode explicit group members
      = if mode = .override then firstOfEachPlacement [] (ranking mode explicit group members)
        else ranking mode explicit group members := by
  cases members with
  | nil => cases mode <;> rfl
  | cons first rest => rfl

section ranked

variable (mode : PriorityMode) (highest : Option String) (group : Nat) (m : Member)

theorem priorityGroup_ranked : (ranked mode highest group m).priorityGroup = some group := by
  cases mode <;> rfl

theorem behavior_ranked : (ranked mode highest group m).behavior
    = if mode = .override then m.inst.behavior else .accumulate := by
  cases mode <;> rfl

theorem subordinateTo_ranked : (ranked mode highest group m).subordinateTo
    = if mode = .cascade then highest else none := by
  cases mode <;> rfl

end ranked

theorem exists_of_mem_ranking {mode : PriorityMode} {explicit : Bool} {group : Nat} {s : Step} :
    ∀ {members : List Member}, s ∈ ranking mode explicit group members →
      ∃ highest m, s = ranked mode highest group m
  | first :: rest, h => by
      rcases List.mem_cons.mp h with rfl | h
      · exact ⟨none, first, rfl⟩
      · obtain ⟨m, -, rfl⟩ := List.mem_map.mp h
        exact ⟨_, m, rfl⟩

theorem map_memberOf_ranking (mode : PriorityMode) (explicit : Bool) (group : Nat) :
    ∀ members : List Member, (ranking mode explicit group members).map memberOf = members
  | [] => rfl
  | first :: rest => by
      rw [ranking, List.map_cons, List.map_map, memberOf_ranked]
      refine congrArg (first :: ·) ?_
      exact (List.map_congr_left fun m _ => memberOf_ranked _ _ _ m).trans (List.map_id' rest)

/-- The steps are those of the members by falling priority, in the group of the place. Unless
the `Priority` overrides, the members accumulate whatever they declare. A cascade that is to be
explicit marks all members but the first, with the name of the first. -/
structure RankedBy (i : Instance) (position : Nat) (members : List Member) (steps : List Step) :
    Prop where
  instances : steps.map memberOf = members
  introduced : ∀ s ∈ steps, s.introducedBy = some Meta.priority.name
  grouped : ∀ s ∈ steps, s.priorityGroup = some position
  behavior : ∀ s ∈ steps,
    s.behavior = if modeOf i = .override then s.inst.behavior else .accumulate
  marked : ∀ (k : Nat) (s : Step), steps[k]? = some s →
    s.subordinateTo = if modeOf i = .cascade ∧ flag i "explicit" false = true ∧ 0 < k
      then members.head?.map Member.name else none

theorem rankedBy_ranking (i : Instance) (position : Nat) (members : List Member) :
    RankedBy i position members
      (ranking (modeOf i) (flag i "explicit" false) position members) where
  instances := map_memberOf_ranking _ _ _ members
  introduced s hs := by
    obtain ⟨highest, m, rfl⟩ := exists_of_mem_ranking hs
    exact introducedBy_ranked _ _ _ m
  grouped s hs := by
    obtain ⟨highest, m, rfl⟩ := exists_of_mem_ranking hs
    exact priorityGroup_ranked _ _ _ m
  behavior s hs := by
    obtain ⟨highest, m, rfl⟩ := exists_of_mem_ranking hs
    have hinst := congrArg Member.inst (memberOf_ranked (modeOf i) highest position m)
    rw [behavior_ranked, ← hinst]
    rfl
  marked k s hs := by
    cases members with
    | nil => cases hs
    | cons first rest =>
        rw [ranking] at hs
        cases k with
        | zero =>
            obtain rfl := Option.some.inj hs
            simp [subordinateTo_ranked]
        | succ k =>
            rw [List.getElem?_cons_succ, List.getElem?_map] at hs
            obtain ⟨m, -, rfl⟩ := Option.map_eq_some_iff.mp hs
            rw [subordinateTo_ranked]
            cases flag i "explicit" false <;> simp

/-- All steps stay, or where the `Priority` overrides the first of each placement. -/
def Keeps (i : Instance) (ranking own : List Step) : Prop :=
  if modeOf i = .override then
    ∃ outranked, Record.KeepsHighest { members := ranking, steps := own, outranked }
  else own = ranking

theorem keeps_prioritize (i : Instance) (position : Nat) (members : List Member) :
    Keeps i (ranking (modeOf i) (flag i "explicit" false) position members)
      (prioritize (modeOf i) (flag i "explicit" false) position members) := by
  rw [prioritize_eq, Keeps]
  split
  · -- no placement is taken at the start
    obtain ⟨outranked, hsub, hperm, hnodup, -, hout⟩ := exists_outranked []
      (ranking (modeOf i) (flag i "explicit" false) position members)
    exact ⟨outranked, hsub, hperm, hnodup, fun s hs => (hout s hs).resolve_left List.not_mem_nil⟩
  · rfl

theorem Keeps.subset {ranking own : List Step} (h : Keeps i ranking own) : own ⊆ ranking := by
  unfold Keeps at h
  split at h
  · obtain ⟨outranked, hkeeps⟩ := h
    exact hkeeps.sublist.subset
  · exact h ▸ List.Subset.refl _

/-! ## Groups -/

/-- The steps in the group of a place. -/
def inGroup (group : Nat) (steps : List Step) : List Step :=
  steps.filter fun s => s.priorityGroup = some group

theorem mem_inGroup {group : Nat} {s : Step} :
    s ∈ inGroup group steps ↔ s ∈ steps ∧ s.priorityGroup = some group := by
  rw [inGroup, List.mem_filter, decide_eq_true_eq]

/-- The turn of a `Priority` puts its steps into the group of its place, and no other turn puts
any into a group. -/
theorem grouped_or_ungrouped {slot : Slot}
    (h : Turn registry request position claims i slot claims') {s : Step}
    (hs : s ∈ slot.steps final) :
    (Meta.ofName? i.name = some .priority ∧ s.introducedBy = some Meta.priority.name
        ∧ s.priorityGroup = some position)
      ∨ (s.introducedBy ≠ some Meta.priority.name ∧ s.priorityGroup = none) := by
  cases h with
  | plain hname =>
      simp only [Slot.steps] at hs
      split at hs
      · cases hs
      · obtain rfl := List.mem_singleton.mp hs
        refine Or.inr ⟨fun hby => ?_, rfl⟩
        cases hby
  | @expanded kind own _ hkind hmeta =>
      obtain ⟨members, -, rfl⟩ := exists_members_of_expandMeta hkind hmeta
      replace hs : s ∈ scheduled kind i position members := hs
      unfold scheduled at hs
      split at hs
      · rename_i hpriority
        subst hpriority
        have hranked := rankedBy_ranking i position members
        have hmem := (keeps_prioritize i position members).subset hs
        exact Or.inl ⟨hkind, hranked.introduced s hmem, hranked.grouped s hmem⟩
      · rename_i hother
        obtain ⟨m, -, rfl⟩ := List.mem_map.mp hs
        -- no other kind of decorator signs with the name of this one
        refine Or.inr ⟨fun hby => hother ?_, rfl⟩
        have hkinds := congrArg Meta.ofName? (Option.some.inj hby)
        rw [Meta.ofName?_name, Meta.ofName?_name] at hkinds
        exact Option.some.inj hkinds

/-- The groups of an expansion are places that it has gone through. -/
theorem priorityGroup_of_expandFrom {rest : List Instance} {slots : List Slot}
    (h : expandFrom registry request position claims rest = .ok (slots, claims')) {s : Step}
    (hs : s ∈ slots.flatMap (Slot.steps final)) {g : Nat} (hg : s.priorityGroup = some g) :
    position ≤ g ∧ g < position + rest.length := by
  obtain ⟨slot, hslot, hs⟩ := List.mem_flatMap.mp hs
  obtain ⟨k, j, claims₁, claims₂, hj, hturn⟩ := exists_turn_of_mem h hslot
  have hlt := (List.getElem?_eq_some_iff.mp hj).1
  rcases grouped_or_ungrouped hturn hs with ⟨-, -, hgroup⟩ | ⟨-, hgroup⟩
  · have hplace : position + k = g := Option.some.inj (hgroup.symm.trans hg)
    omega
  · cases hgroup.symm.trans hg

/-- **The steps of a `Priority` are those in the group of its place.** -/
theorem exists_arranges_inGroup (h : expand registry request = .ok steps)
    (hi : request[position]? = some i) (hkind : Meta.ofName? i.name = some .priority) :
    ∃ claims, Arranges registry request steps position i .priority claims
      (inGroup position steps) := by
  obtain ⟨slots, claims, slot, claims', slots', final, hfront, hturn, hback, rfl⟩ :=
    exists_turn h hi
  cases hturn with
  | plain hname =>
      rw [hname] at hkind
      cases hkind
  | @expanded kind own _ hkind' hmeta =>
      obtain rfl : Meta.priority = kind := Option.some.inj (hkind.symm.trans hkind')
      have hsplit : (slots ++ Slot.expanded own :: slots').flatMap (Slot.steps final)
          = slots.flatMap (Slot.steps final) ++ own ++ slots'.flatMap (Slot.steps final) := by
        rw [List.flatMap_append, List.flatMap_cons, List.append_assoc]
        rfl
      obtain ⟨members, -, hown⟩ := exists_members_of_expandMeta hkind hmeta
      have hgrouped : ∀ s ∈ own, s.priorityGroup = some position := by
        intro s hs
        rw [hown] at hs
        exact (rankedBy_ranking i position members).grouped s
          ((keeps_prioritize i position members).subset hs)
      have hlength : (request.take position).length ≤ position := List.length_take_le _ _
      have hbefore : ∀ s ∈ slots.flatMap (Slot.steps final), ¬ s.priorityGroup = some position := by
        intro s hs hg
        have hrange := priorityGroup_of_expandFrom hfront hs hg
        omega
      have hafter : ∀ s ∈ slots'.flatMap (Slot.steps final), ¬ s.priorityGroup = some position := by
        intro s hs hg
        have hrange := priorityGroup_of_expandFrom hback hs hg
        omega
      have hgroup : inGroup position ((slots ++ Slot.expanded own :: slots').flatMap
          (Slot.steps final)) = own := by
        rw [hsplit, inGroup, List.filter_append, List.filter_append,
          List.filter_eq_nil_iff.mpr fun s hs => by simpa using hbefore s hs,
          List.filter_eq_self.mpr fun s hs => by simpa using hgrouped s hs,
          List.filter_eq_nil_iff.mpr fun s hs => by simpa using hafter s hs,
          List.nil_append, List.append_nil]
      rw [hgroup]
      exact ⟨claims, ⟨slots, hfront⟩, ⟨claims', hmeta⟩, _, _, hsplit.symm⟩

/-- The members are the decorators of the listed names: a mention stands for the instance that
is free by then and has as many in front of it as there are earlier mentions of the name, and
without such an instance for the latest registered definition. -/
structure ResolvesTo (registry : Registry) (request : Request) (claims : Claims)
    (listed : List String) (members : List Member) : Prop where
  names : members.map Member.name = listed
  mention : ∀ (n : Nat) (name : String), listed[n]? = some name →
    ∃ m, members[n]? = some m
      ∧ m.StandsFor registry request name (free request claims name)[(listed.take n).count name]?

theorem exists_members_of_arranges (hreachable : registry.Reachable)
    (hi : request[position]? = some i) (hkind : Meta.ofName? i.name = some .priority)
    {own : List Step} (h : Arranges registry request steps position i .priority claims own) :
    ∃ members, ResolvesTo registry request claims (names i "decorators") members
      ∧ own = prioritize (modeOf i) (flag i "explicit" false) position members := by
  obtain ⟨claims', hmeta⟩ := h.turned
  obtain ⟨members, hresolve, hown⟩ := exists_members_of_expandMeta hkind hmeta
  have hdropping : dropping request position i = [] := by
    rw [dropping, hkind, if_neg (by decide)]
  have hresolved : resolved request position i = names i "decorators" := by
    rw [resolved, hkind]
  have hstrict : isStrict .priority i = true := rfl
  rw [hdropping, hresolved, hstrict, drop] at hresolve
  have hlaw := resolved_of_resolveAll hreachable hresolve
  have hall : members.map Member.name = names i "decorators" := hlaw.complete rfl
  refine ⟨members, ⟨hall, fun n name hname => ?_⟩, hown⟩
  obtain ⟨m, hm, hstands⟩ := resolveAll_getElem? hresolve hname
  have hordinary : Meta.ofName? name = none := by
    have hmem : name ∈ members.map Member.name := hall ▸ List.mem_of_getElem? hname
    obtain ⟨m', hm', rfl⟩ := List.mem_map.mp hmem
    exact hlaw.ordinary m' hm'
  refine ⟨m, hm, ?_⟩
  rwa [free_cons_of_not_isAt (isAt_eq_false hordinary hi hkind)] at hstands

end Expansion

/-! ## Texts of steps -/

namespace Step

/-- A mark shows nothing where there is nothing to mark. -/
theorem isBlank_render (s : Step) : Text.isBlank s.render = Text.isBlank s.inst.render := by
  unfold render
  cases s.subordinateTo with
  | none => rfl
  | some higher =>
      simp only
      split
      · rfl
      · rename_i hblank
        rw [Bool.not_eq_true] at hblank
        rw [Text.isBlank, String.toList_append, List.all_append, ← Text.isBlank, ← Text.isBlank,
          hblank, Bool.and_false]

end Step

namespace Plan

open Expansion

variable {registry : Registry} {config : Config} {request : Request} {steps own : List Step}
  {position : Nat} {s t : Step}

/-! ## Conflicts -/

/-- One of the steps declares a conflict with the other. -/
def Declares (s t : Step) : Prop :=
  (∃ n ∈ s.definition.compatibility.conflicts.toList, n.text = t.name)
    ∨ ∃ n ∈ t.definition.compatibility.conflicts.toList, n.text = s.name

/-- No decorator declares a conflict with its own name. -/
theorem Declares.name_ne (h : Declares s t) : s.name ≠ t.name := by
  have hself : ∀ d : Definition,
      ¬ ∃ n ∈ d.compatibility.conflicts.toList, n.text = d.name.text := by
    intro d hd
    have hnone := d.consistent.2.1
    rw [Sorted.contains_iff.mpr hd] at hnone
    cases hnone
  intro hname
  rcases h with h | h
  · rw [← hname] at h
    exact hself s.definition h
  · rw [hname] at h
    exact hself t.definition h

theorem exists_offends (hs : s ∈ steps) (ht : t ∈ steps) (hst : Conflicting s t)
    (hts : Conflicting t s) : ∃ p q, Offends steps p q := by
  obtain ⟨p, hp⟩ := List.mem_iff_getElem?.mp hs
  obtain ⟨q, hq⟩ := List.mem_iff_getElem?.mp ht
  rcases Nat.lt_trichotomy p q with hlt | rfl | hlt
  · exact ⟨p, q, hlt, s, t, hp, hq, hst⟩
  · obtain rfl := Option.some.inj (hp.symm.trans hq)
    exact absurd rfl hst.1
  · exact ⟨q, p, hlt, t, s, hq, hp, hts⟩

/-- Conflicts between two of the steps are excused, and no others of theirs. -/
structure SettlesConflicts (registry : Registry) (request : Request) (steps own : List Step) :
    Prop where
  /-- A request that is refused for a conflict has one that is not between two of these. -/
  excused : ∀ config a b, ofRequest registry config request = .error (.conflict a b) →
    ∃ s ∈ steps, ∃ t ∈ steps, s.name = a ∧ t.name = b ∧ Declares s t ∧ ¬ (s ∈ own ∧ t ∈ own)
  /-- With a conflict between one of these and another step the request is refused, and for a
  conflict unless its standard version is refused before. -/
  enforced : ∀ s ∈ own, ∀ t ∈ steps, t ∉ own → Declares s t → ∀ config,
    (∀ plan, ofRequest registry config request ≠ .ok plan)
      ∧ ∀ standard, standardVersion config request = .ok standard →
          ∃ a b, ofRequest registry config request = .error (.conflict a b)

theorem offends_of_ofRequest {a b : String}
    (h : ofRequest registry config request = .error (.conflict a b))
    (hsteps : expand registry request = .ok steps) :
    ∃ p q s t, Offends steps p q ∧ steps[p]? = some s ∧ steps[q]? = some t ∧ s.name = a
      ∧ t.name = b := by
  cases planning_of_ofRequest h with
  | unversioned hstandard =>
      rcases error_of_standardVersion hstandard with ⟨p, hp⟩ | ⟨text, htext⟩
      · cases hp
      · cases htext
  | unexpanded hfailed =>
      rw [hsteps] at hfailed
      cases hfailed
  | refused _ hsteps' hviolation =>
      obtain rfl := Except.ok.inj (hsteps.symm.trans hsteps')
      cases hviolation with
      | conflict hfirst hs ht => exact ⟨_, _, _, _, hfirst.1, hs, ht, rfl, rfl⟩

theorem refused_of_offends (hsteps : expand registry request = .ok steps) {p q : Nat}
    (h : Offends steps p q) :
    (∀ plan, ofRequest registry config request ≠ .ok plan)
      ∧ ∀ standard, standardVersion config request = .ok standard →
          ∃ a b, ofRequest registry config request = .error (.conflict a b) := by
  have hrefused : ∀ plan, ofRequest registry config request ≠ .ok plan := by
    intro plan hplan
    cases planning_of_ofRequest hplan with
    | planned _ hsteps' hadmissible =>
        obtain rfl := Except.ok.inj (hsteps.symm.trans hsteps')
        exact hadmissible.compatible p q h
  refine ⟨hrefused, fun standard hstandard => ?_⟩
  cases hrequest : ofRequest registry config request with
  | ok plan => exact absurd hrequest (hrefused plan)
  | error e =>
      cases planning_of_ofRequest hrequest with
      | unversioned hfailed =>
          rw [hstandard] at hfailed
          cases hfailed
      | unexpanded hfailed =>
          rw [hsteps] at hfailed
          cases hfailed
      | refused _ hsteps' hviolation =>
          obtain rfl := Except.ok.inj (hsteps.symm.trans hsteps')
          cases hviolation with
          | conflict _ _ _ => exact ⟨_, _, rfl⟩
          -- conflicts are looked for first
          | requirement hnone | standard hnone | model hnone | replacement hnone =>
              exact absurd h (hnone p q)

/-- **A group settles the conflicts within it**, and no others. -/
theorem settlesConflicts_inGroup (hsteps : expand registry request = .ok steps) (group : Nat) :
    SettlesConflicts registry request steps (inGroup group steps) where
  excused config a b h := by
    obtain ⟨p, q, s, t, ⟨hlt, s', t', hs', ht', hconflict⟩, hs, ht, hname⟩ :=
      offends_of_ofRequest h hsteps
    obtain rfl := Option.some.inj (hs.symm.trans hs')
    obtain rfl := Option.some.inj (ht.symm.trans ht')
    refine ⟨s, List.mem_of_getElem? hs, t, List.mem_of_getElem? ht, hname.1, hname.2,
      hconflict.2.2, ?_⟩
    rintro ⟨hsg, htg⟩
    exact hconflict.2.1 ⟨group, (mem_inGroup.mp hsg).2, (mem_inGroup.mp htg).2⟩
  enforced s hs t ht hnot hdeclares config := by
    obtain ⟨hs, hsg⟩ := mem_inGroup.mp hs
    have hshare : ∀ g, s.priorityGroup = some g → t.priorityGroup ≠ some g := by
      rintro g hg htg
      obtain rfl := Option.some.inj (hsg.symm.trans hg)
      exact hnot (mem_inGroup.mpr ⟨ht, htg⟩)
    have hst : Conflicting s t :=
      ⟨hdeclares.name_ne, fun ⟨g, hg, hg'⟩ => hshare g hg hg', hdeclares⟩
    have hts : Conflicting t s :=
      ⟨hdeclares.name_ne.symm, fun ⟨g, hg, hg'⟩ => hshare g hg' hg, hdeclares.symm⟩
    obtain ⟨p, q, hoffends⟩ := exists_offends hs ht hst hts
    exact refused_of_offends hsteps hoffends

/-! ## Output -/

theorem entriesAt_sublist {placement : Placement} {xs ys : List Step} (h : xs.Sublist ys) :
    (entriesAt placement xs).Sublist (entriesAt placement ys) :=
  ((h.filter _).map _).filter _

/-- Where all steps accumulate, all texts do. -/
theorem accumulated_entriesAt {placement : Placement} {xs : List Step}
    (h : ∀ s ∈ xs, s.behavior = .accumulate) :
    (entriesAt placement xs).accumulated = (entriesAt placement xs).map Prod.snd := by
  refine congrArg (List.map Prod.snd) (List.filter_eq_self.mpr fun e he => ?_)
  obtain ⟨s, hs, rfl⟩ := List.mem_map.mp (List.mem_filter.mp he).1
  exact decide_eq_true (h s (List.mem_filter.mp hs).1)

/-- **What accumulates is never lost**, whatever else is in the bucket. -/
theorem texts_sublist_merged {placement : Placement} {xs ys : List Step} (h : xs.Sublist ys)
    (hxs : ∀ s ∈ xs, s.behavior = .accumulate) :
    ((entriesAt placement xs).map Prod.snd).Sublist (entriesAt placement ys).merged := by
  rw [← accumulated_entriesAt hxs]
  refine List.Sublist.trans ?_ (entriesAt placement ys).accumulated_sublist_merged.1
  exact ((entriesAt_sublist h).filter _).map _

/-- The texts of the steps in the group are in the output of the plan, in order, and none of
them is ever overwritten. -/
structure RetainsTexts (plan : Plan) (group : Nat) : Prop where
  /-- The steps stand before or after the prompt, -/
  placed : ∀ s ∈ inGroup group plan.steps, s.placement = .prepend ∨ s.placement = .append
  /-- with the texts of their instances that are not blank, -/
  blank : ∀ s ∈ inGroup group plan.steps, Text.isBlank s.render = Text.isBlank s.inst.render
  unmarked : ∀ s ∈ inGroup group plan.steps, s.subordinateTo = none → s.render = s.inst.render
  /-- marked where they are to be, -/
  marked : ∀ s ∈ inGroup group plan.steps, ∀ higher, s.subordinateTo = some higher →
    s.render = if Text.isBlank s.inst.render then s.inst.render
      else "(Lower priority than " ++ higher ++ ") " ++ s.inst.render
  /-- and the output is what the two buckets hold, around the prompt. -/
  output : ∀ base, plan.render base
    = Text.join "\n\n" ((Draft.ofSteps plan.steps).before.texts
        ++ (if Text.isBlank base then [] else [base]) ++ (Draft.ofSteps plan.steps).after.texts)
  /-- At any time the buckets hold the texts of those steps that have had their turn. -/
  retained : ∀ front, front <+: plan.steps →
    ((entriesAt .prepend (inGroup group front)).map Prod.snd).Sublist
        (Draft.ofSteps front).before.texts
      ∧ ((entriesAt .append (inGroup group front)).map Prod.snd).Sublist
        (Draft.ofSteps front).after.texts

theorem retainsTexts {plan : Plan} {group : Nat}
    (hbehavior : ∀ s ∈ inGroup group plan.steps, s.behavior = .accumulate)
    (hnone : ∀ s ∈ plan.steps, ¬ Replaces s) : RetainsTexts plan group where
  placed s hs := by
    have hplacement := hnone s (mem_inGroup.mp hs).1
    unfold Replaces at hplacement
    cases hp : s.placement with
    | prepend => exact Or.inl rfl
    | append => exact Or.inr rfl
    | override => exact absurd (Or.inl hp) hplacement
    | replace => exact absurd (Or.inr hp) hplacement
  blank s _ := s.isBlank_render
  unmarked s _ hmark := by simp only [Step.render, hmark]
  marked s _ higher hmark := by simp only [Step.render, hmark]
  output base := by
    have hreplacements : replacements plan.steps = [] := by
      refine List.eq_nil_iff_forall_not_mem.mpr fun text hmem => ?_
      obtain ⟨s, hs, hr, -⟩ := mem_replacements.mp hmem
      exact hnone s hs hr
    have hreplacement := (Draft.holds_ofSteps plan.steps).replacement
    rw [hreplacements] at hreplacement
    simp only [Plan.render, Draft.finish, hreplacement, List.getLast?_nil]
    rfl
  retained front hfront := by
    obtain ⟨hbefore, hafter, -⟩ := Draft.holds_ofSteps front
    have hsub : (inGroup group front).Sublist front := List.filter_sublist
    have hall : ∀ s ∈ inGroup group front, s.behavior = .accumulate := fun s hs =>
      hbehavior s ((hfront.sublist.filter _).subset hs)
    rw [hbefore.texts, hafter.texts]
    exact ⟨texts_sublist_merged hsub hall, texts_sublist_merged hsub hall⟩

/-- **A `Priority` does what its mode says.** In every expansion it turns into the steps of its
group. These are its members, by falling priority: all of them, or where it overrides those
that are the first of their placement. Conflicts between two of them count for nothing, and
those with any other step for as much as ever. Where it does not override, and no step takes
the place of the prompt, the texts of all members are in the output, in order and for good. -/
theorem expand_prioritized (hreachable : registry.Reachable)
    (h : expand registry request = .ok steps) {i : Instance} (hi : request[position]? = some i)
    (hkind : Meta.ofName? i.name = some .priority) :
    ∃ claims members ranking,
      Arranges registry request steps position i .priority claims (inGroup position steps)
        ∧ ResolvesTo registry request claims (names i "decorators") members
        ∧ RankedBy i position members ranking
        ∧ Keeps i ranking (inGroup position steps)
        ∧ SettlesConflicts registry request steps (inGroup position steps)
        ∧ (modeOf i ≠ .override → ∀ config plan, ofRequest registry config request = .ok plan →
            (∀ s ∈ plan.steps, ¬ Replaces s) →
            plan.steps = steps ∧ RetainsTexts plan position) := by
  obtain ⟨claims, harranges⟩ := exists_arranges_inGroup h hi hkind
  obtain ⟨members, hresolves, hown⟩ := exists_members_of_arranges hreachable hi hkind harranges
  have hranked := rankedBy_ranking i position members
  have hkeeps : Keeps i (ranking (modeOf i) (flag i "explicit" false) position members)
      (inGroup position steps) := hown ▸ keeps_prioritize i position members
  refine ⟨claims, members, _, harranges, hresolves, hranked, hkeeps,
    settlesConflicts_inGroup h position, fun hmode config plan hplan hnone => ?_⟩
  cases planning_of_ofRequest hplan with
  | planned _ hsteps _ =>
      obtain rfl := Except.ok.inj (h.symm.trans hsteps)
      refine ⟨rfl, retainsTexts (fun s hs => ?_) hnone⟩
      rw [hranked.behavior s (hkeeps.subset hs), if_neg hmode]

/-- A `Priority` that cascades and marks what it puts last. -/
def cascade (listed : List String) : Instance where
  definition :=
    { name := ⟨Meta.priority.name, fault?_name .priority⟩, version := .one, category := "meta",
      description := none,
      parameters :=
        [{ name := "decorators", shape := .simple .list {} },
          { name := "mode", shape := .simple .text {} },
          { name := "explicit", shape := .simple .boolean {} }],
      template := {}, compatibility := {}, declared := rfl, mapped := rfl,
      consistent := consistent_empty _ }
  bindings :=
    .ofList [("decorators", .list (listed.map .text)), ("mode", .text "cascade"),
      ("explicit", .bool true)]

/-- A note that conflicts with `Solemn`. -/
def casual : Instance where
  definition :=
    { (note ⟨"Casual", rfl⟩ "Be casual." .prepend .override).definition with
      compatibility := { conflicts := .ofList [⟨"Solemn", rfl⟩] }, consistent := ⟨rfl, rfl, rfl⟩ }
  bindings := .empty

/-- Two notes that conflict, in a `Priority`, and one that would override them. -/
def cascading : Request :=
  [cascade ["Casual", "Solemn"], note ⟨"Solemn", rfl⟩ "Be solemn." .prepend .override, casual,
    note ⟨"Brevity", rfl⟩ "Be brief." .prepend .override]

/-- The conflict is excused, the second note is marked, and nothing overrides the two. -/
theorem expand_prioritized_cascading :
    ∃ steps plan, Registry.empty.Reachable ∧ expand .empty cascading = .ok steps
      ∧ modeOf (cascade ["Casual", "Solemn"]) = .cascade
      ∧ ofRequest .empty {} cascading = .ok plan
      ∧ SettlesConflicts .empty cascading steps (inGroup 0 steps)
      ∧ (inGroup 0 steps).map Step.subordinateTo = [none, some "Casual"]
      ∧ RetainsTexts plan 0
      ∧ plan.render "Why?"
          = "Be casual.\n\n(Lower priority than Casual) Be solemn.\n\nBe brief.\n\nWhy?" := by
  have hreachable : Registry.empty.Reachable := ⟨[], rfl⟩
  obtain ⟨steps, hsteps, hmarks⟩ : ∃ steps, expand .empty cascading = .ok steps
      ∧ (inGroup 0 steps).map Step.subordinateTo = [none, some "Casual"] := ⟨_, rfl, rfl⟩
  obtain ⟨plan, hplan, hnone, hrender⟩ : ∃ plan, ofRequest .empty {} cascading = .ok plan
      ∧ (∀ s ∈ plan.steps, ¬ Replaces s)
      ∧ plan.render "Why?"
          = "Be casual.\n\n(Lower priority than Casual) Be solemn.\n\nBe brief.\n\nWhy?" :=
    ⟨_, rfl, by decide +kernel, by decide +kernel⟩
  have hfirst : cascading[0]? = some (cascade ["Casual", "Solemn"]) := rfl
  obtain ⟨-, -, -, -, -, -, -, hsettles, hretains⟩ :=
    expand_prioritized hreachable hsteps hfirst rfl
  exact ⟨steps, plan, hreachable, hsteps, rfl, hplan, hsettles, hmarks,
    (hretains (by decide) {} plan hplan hnone).2, hrender⟩

end Plan

end Decorate
