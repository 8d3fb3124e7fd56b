import Decorate.Proofs.Priorities
import Mathlib.Data.List.Perm.Subperm

/-!
# Replacements

A plan has at most one step that takes the place of the prompt, with either
of two placements. A `Priority` that overrides leaves the highest of its
members for each placement (`filter_prioritize`): so where all such steps
are its own (`mem_inGroup_of_introducedBy`), there are at most two, and
there are two exactly if its members include one of either placement
(`KeepsReplacements`).

These are the `Rivals`, and only they make a request fail for two
replacements (`Plan.ofRequest_overriding`).
-/

namespace Decorate

namespace Expansion

variable {registry : Registry} {request : Request} {steps : List Step} {position : Nat}

/-! ## The highest of each placement -/

/-- The member of highest priority with such a placement. -/
def highest? (p : Placement → Bool) (members : List Member) : Option Member :=
  members.find? fun m => p m.inst.placement

/-- The first step with one of the placements stays, if none of them is taken. -/
theorem find?_firstOfEachPlacement (p : Placement → Bool) :
    ∀ (taken : List Placement) (steps : List Step), (∀ q ∈ taken, p q = false) →
      (firstOfEachPlacement taken steps).find? (fun s => p s.placement)
        = steps.find? fun s => p s.placement
  | taken, [], _ => rfl
  | taken, s :: rest, htaken => by
      unfold firstOfEachPlacement
      split
      · rename_i hmem
        have hs : p s.placement = false := htaken _ (List.contains_iff_mem.mp hmem)
        simp only [List.find?_cons, hs]
        exact find?_firstOfEachPlacement p taken rest htaken
      · cases hs : p s.placement with
        | true => simp only [List.find?_cons, hs]
        | false =>
            simp only [List.find?_cons, hs]
            exact find?_firstOfEachPlacement p _ rest (List.forall_mem_cons.mpr ⟨hs, htaken⟩)

theorem filter_placement_of_nodup (h : (steps.map Step.placement).Nodup) (placement : Placement) :
    (steps.filter fun s => s.placement = placement)
      = (steps.find? fun s => s.placement = placement).toList := by
  rw [← List.head?_filter]
  match hfilter : steps.filter fun s => s.placement = placement with
  | [] => rw [hfilter]; rfl
  | [s] => rw [hfilter]; rfl
  | s :: t :: rest =>
      have hall : ∀ u ∈ s :: t :: rest, u.placement = placement := fun u hu => by
        rw [← hfilter] at hu
        exact of_decide_eq_true (List.mem_filter.mp hu).2
      have hsub : (s :: t :: rest).Sublist steps := hfilter ▸ List.filter_sublist
      have hnodup := h.sublist (hsub.map Step.placement)
      rw [List.map_cons, List.map_cons, hall s (by simp), hall t (by simp)] at hnodup
      exact absurd List.mem_cons_self (List.nodup_cons.mp hnodup).1

theorem nodup_prioritize (explicit : Bool) (group : Nat) (members : List Member) :
    ((prioritize .override explicit group members).map Step.placement).Nodup := by
  rw [prioritize_eq, if_pos rfl]
  obtain ⟨-, -, -, hnodup, -⟩ := exists_outranked [] (ranking .override explicit group members)
  exact hnodup

/-- **The highest of the members with some placements stays**, and leads them. -/
theorem find?_prioritize (p : Placement → Bool) (explicit : Bool) (group : Nat)
    (members : List Member) :
    ((prioritize .override explicit group members).find? fun s => p s.placement).map memberOf
      = highest? p members := by
  rw [prioritize_eq, if_pos rfl, find?_firstOfEachPlacement p [] _ (fun _ h => nomatch h),
    highest?]
  conv_rhs => rw [← map_memberOf_ranking .override explicit group members, List.find?_map]
  rfl

/-- Of one placement the highest member is all that stays. -/
theorem filter_prioritize (placement : Placement) (explicit : Bool) (group : Nat)
    (members : List Member) :
    ((prioritize .override explicit group members).filter fun s => s.placement = placement).map
        memberOf = (highest? (· = placement) members).toList := by
  rw [filter_placement_of_nodup (nodup_prioritize explicit group members), ← Option.toList_map,
    find?_prioritize (fun q => decide (q = placement))]

/-! ## Steps that a `Priority` scheduled -/

/-- Where there is one `Priority`, what it scheduled is in its group. -/
theorem mem_inGroup_of_introducedBy (h : expand registry request = .ok steps)
    (hsole : ∀ q j, request[q]? = some j → Meta.ofName? j.name = some .priority → q = position)
    {s : Step} (hs : s ∈ steps) (hby : s.introducedBy = some Meta.priority.name) :
    s ∈ inGroup position steps := by
  refine mem_inGroup.mpr ⟨hs, ?_⟩
  unfold expand at h
  split at h
  · cases h
  · rename_i slots claims hfrom
    obtain rfl := Except.ok.inj h
    obtain ⟨slot, hslot, hs⟩ := List.mem_flatMap.mp hs
    obtain ⟨k, j, claims₁, claims₂, hj, hturn⟩ := exists_turn_of_mem hfrom hslot
    rcases grouped_or_ungrouped hturn hs with ⟨hkind, -, hgroup⟩ | ⟨hnot, -⟩
    · rw [hgroup, Nat.zero_add, hsole k j hj hkind]
    · exact absurd hby hnot

/-- What holds only of steps in a group selects the same steps from it. -/
theorem filter_inGroup {group : Nat} {p : Step → Bool}
    (h : ∀ s ∈ steps, p s = true → s ∈ inGroup group steps) :
    (inGroup group steps).filter p = steps.filter p := by
  rw [inGroup, List.filter_filter]
  refine List.filter_congr fun s hs => ?_
  cases hp : p s with
  | false => rfl
  | true => rw [Bool.true_and, decide_eq_true (mem_inGroup.mp (h s hs hp)).2]

end Expansion

namespace Plan

open Expansion

variable {registry : Registry} {config : Config} {request : Request} {steps : List Step}
  {position : Nat} {members : List Member} {m n : Member} {s t : Step}

/-- Holds of placements instead of the prompt, for a step and for the instance in it. -/
theorem replaces_iff : Replaces s ↔ (memberOf s).inst.placement.replacesPrompt = true := by
  rw [show (memberOf s).inst.placement = s.placement from rfl, replacesPrompt_eq,
    decide_eq_true_iff]

/-! ## What is left in place of the prompt -/

/-- The steps that take the place of the prompt are the highest member for each placement that
does, and the first of them is the highest of all these members. -/
structure KeepsReplacements (steps : List Step) (members : List Member) : Prop where
  first : (steps.find? fun s => Replaces s).map memberOf
    = highest? Placement.replacesPrompt members
  each : ∀ placement, placement.replacesPrompt = true →
    (steps.filter fun s => s.placement = placement).map memberOf
      = (highest? (· = placement) members).toList

theorem keepsReplacements_prioritize {explicit : Bool} {group : Nat}
    (hown : inGroup group steps = prioritize .override explicit group members)
    (hgroup : ∀ s ∈ steps, Replaces s → s ∈ inGroup group steps) :
    KeepsReplacements steps members where
  first := by
    have hreplaces : (fun s : Step => decide (Replaces s)) = fun s => s.placement.replacesPrompt :=
      funext fun s => (replacesPrompt_eq s).symm
    rw [← List.head?_filter,
      ← filter_inGroup fun s hs hp => hgroup s hs (of_decide_eq_true hp), hown,
      List.head?_filter, hreplaces, find?_prioritize]
  each placement hplacement := by
    rw [← filter_inGroup fun s hs hp => hgroup s hs ?_, hown, filter_prioritize]
    obtain rfl : s.placement = placement := of_decide_eq_true hp
    exact replaces_iff.mpr hplacement

namespace KeepsReplacements

variable (h : KeepsReplacements steps members)

include h

theorem highest?_of_mem (hs : s ∈ steps) (hr : Replaces s) :
    highest? (· = s.placement) members = some (memberOf s) := by
  rw [← Option.mem_toList, ← h.each s.placement (replaces_iff.mp hr)]
  exact List.mem_map_of_mem (List.mem_filter.mpr ⟨hs, decide_eq_true rfl⟩)

theorem exists_of_highest? (hr : n.inst.placement.replacesPrompt = true)
    (hn : highest? (· = n.inst.placement) members = some n) :
    ∃ s ∈ steps, Replaces s ∧ memberOf s = n := by
  rw [← Option.mem_toList, ← h.each n.inst.placement hr] at hn
  obtain ⟨s, hs, rfl⟩ := List.mem_map.mp hn
  exact ⟨s, (List.mem_filter.mp hs).1, replaces_iff.mpr hr, rfl⟩

/-- No two of the steps that take the place of the prompt have the same placement. -/
theorem placement_ne (hsub : [s, t].Sublist steps) (hr : Replaces s) :
    t.placement ≠ s.placement := by
  intro heq
  have hsub' := hsub.filter fun u => u.placement = s.placement
  have hpair : [s, t].filter (fun u => u.placement = s.placement) = [s, t] := by simp [heq]
  have hlength := congrArg List.length (h.each s.placement (replaces_iff.mp hr))
  rw [List.length_map] at hlength
  have htwo := hpair ▸ hsub'.length_le
  have hone : (highest? (· = s.placement) members).toList.length ≤ 1 := by
    cases highest? (· = s.placement) members <;> simp
  simp only [List.length_cons, List.length_nil] at htwo
  omega

end KeepsReplacements

/-! ## Rivals -/

/-- The highest of the members that take the place of the prompt, and the highest of those that
do so with the other placement. -/
structure Rivals (members : List Member) (m n : Member) : Prop where
  highest : highest? Placement.replacesPrompt members = some m
  rival : highest? (· = n.inst.placement) members = some n
  replaces : n.inst.placement.replacesPrompt = true
  apart : n.inst.placement ≠ m.inst.placement

theorem replacesPrompt_of_highest? (h : highest? Placement.replacesPrompt members = some m) :
    m.inst.placement.replacesPrompt = true := by
  have hm := List.find?_some h
  exact hm

/-- There are two placements instead of the prompt. -/
theorem eq_of_replacesPrompt_of_ne {p q r : Placement} (hp : p.replacesPrompt = true)
    (hq : q.replacesPrompt = true) (hr : r.replacesPrompt = true) (hqp : q ≠ p) (hrp : r ≠ p) :
    q = r := by
  cases p <;> cases q <;> cases r <;> simp_all [Placement.replacesPrompt]

theorem Rivals.unique {m' n' : Member} (h : Rivals members m n) (h' : Rivals members m' n') :
    m = m' ∧ n = n' := by
  obtain rfl := Option.some.inj (h.highest.symm.trans h'.highest)
  have hplacement := eq_of_replacesPrompt_of_ne (replacesPrompt_of_highest? h.highest) h.replaces
    h'.replaces h.apart h'.apart
  have hrival := h'.rival
  rw [← hplacement, h.rival] at hrival
  exact ⟨rfl, Option.some.inj hrival⟩

namespace KeepsReplacements

variable (h : KeepsReplacements steps members)

include h

/-- The first two steps that take the place of the prompt are rivals. -/
theorem rivals {before between after : List Step}
    (hsteps : steps = before ++ s :: (between ++ t :: after))
    (hbefore : ∀ u ∈ before ++ between, ¬ Replaces u) (hs : Replaces s) (ht : Replaces t) :
    Rivals members (memberOf s) (memberOf t) where
  highest := by
    have hnone : (before.find? fun u => Replaces u) = none :=
      List.find?_eq_none.mpr fun u hu => by simpa using hbefore u (List.mem_append_left _ hu)
    rw [← h.first, hsteps, List.find?_append, hnone, Option.none_or,
      List.find?_cons_of_pos (by exact decide_eq_true hs)]
    rfl
  rival := h.highest?_of_mem (by simp [hsteps]) ht
  replaces := replaces_iff.mp ht
  apart := by
    refine h.placement_ne ?_ hs
    rw [hsteps]
    refine List.Sublist.trans ?_ (List.sublist_append_right _ _)
    exact ((List.singleton_sublist.mpr (by simp)).cons_cons s)

/-- With rivals more than one step takes the place of the prompt. -/
theorem not_single (hrivals : Rivals members m n) :
    ¬ steps.countP (fun s => Replaces s) ≤ 1 := by
  intro hsingle
  have hfirst := h.first.trans hrivals.highest
  obtain ⟨s, hs, rfl⟩ := Option.map_eq_some_iff.mp hfirst
  obtain ⟨t, ht, hr, rfl⟩ := h.exists_of_highest? hrivals.replaces hrivals.rival
  have hne : s ≠ t := fun heq => hrivals.apart (heq ▸ rfl)
  have hpair : [s, t] ⊆ steps.filter fun s => Replaces s := by
    have hs' := List.find?_some hs
    refine List.cons_subset.mpr ⟨?_, List.cons_subset.mpr ⟨?_, List.nil_subset _⟩⟩
    · exact List.mem_filter.mpr ⟨List.mem_of_find?_eq_some hs, hs'⟩
    · exact List.mem_filter.mpr ⟨ht, decide_eq_true hr⟩
  have hdistinct : [s, t].Nodup := by simpa using hne
  have hlength := (List.subperm_of_subset hdistinct hpair).length_le
  rw [← List.countP_eq_length_filter] at hlength
  simp only [List.length_cons, List.length_nil] at hlength
  omega

end KeepsReplacements

/-! ## Refusals -/

/-- Two replacements are only found once the request is expanded. -/
theorem violation_of_conflictingReplace {a b : String}
    (h : ofRequest registry config request = .error (.conflictingReplace a b)) :
    ∃ standard steps, expand registry request = .ok steps
      ∧ FirstViolation config standard request steps (.conflictingReplace a b) := by
  cases planning_of_ofRequest h with
  | unversioned hstandard =>
      rcases error_of_standardVersion hstandard with ⟨p, hp⟩ | ⟨text, htext⟩
      · cases hp
      · cases htext
  | unexpanded hfailed => cases namingError_of_expand hfailed
  | refused _ hsteps hviolation => exact ⟨_, _, hsteps, hviolation⟩

/-- Two replacements are refused if they are rivals, and no others are. -/
structure RefusesRivals (registry : Registry) (request : Request) (steps : List Step)
    (members : List Member) : Prop where
  excused : ∀ config a b, ofRequest registry config request = .error (.conflictingReplace a b) →
    ∃ m n, Rivals members m n ∧ m.name = a ∧ n.name = b
  /-- Rivals are looked for last. -/
  enforced : ∀ m n, Rivals members m n → ∀ config,
    (∀ plan, ofRequest registry config request ≠ .ok plan)
      ∧ ∀ standard, standardVersion config request = .ok standard →
          (∀ p q, ¬ Offends steps p q) →
          (∀ d ∈ involved request steps, Complete request steps d
            ∧ d.compatibility.standard.contains standard = true ∧ SupportsTarget config d) →
          ofRequest registry config request = .error (.conflictingReplace m.name n.name)

theorem refusesRivals (hsteps : expand registry request = .ok steps)
    (hkeeps : KeepsReplacements steps members) : RefusesRivals registry request steps members where
  excused config a b h := by
    obtain ⟨standard, steps', hsteps', hviolation⟩ := violation_of_conflictingReplace h
    obtain rfl := Except.ok.inj (hsteps.symm.trans hsteps')
    cases hviolation with
    | replacement _ _ _ _ hsplit hbefore hs ht =>
        exact ⟨_, _, hkeeps.rivals hsplit hbefore hs ht, rfl, rfl⟩
  enforced m n hrivals config := by
    have hrefused : ∀ plan, ofRequest registry config request ≠ .ok plan := by
      intro plan hplan
      cases planning_of_ofRequest hplan with
      | planned _ hsteps' hadmissible =>
          obtain rfl := Except.ok.inj (hsteps.symm.trans hsteps')
          exact hkeeps.not_single hrivals hadmissible.single
    refine ⟨hrefused, fun standard hstandard hcompatible hinvolved => ?_⟩
    cases hrequest : ofRequest registry config request with
    | ok plan => exact absurd hrequest (hrefused plan)
    | error e =>
        cases planning_of_ofRequest hrequest with
        | unversioned hfailed => cases hstandard.symm.trans hfailed
        | unexpanded hfailed => cases hsteps.symm.trans hfailed
        | refused hstandard' hsteps' hviolation =>
            obtain rfl := Except.ok.inj (hsteps.symm.trans hsteps')
            obtain rfl := Except.ok.inj (hstandard.symm.trans hstandard')
            cases hviolation with
            | conflict hfirst => exact absurd hfirst.1 (hcompatible _ _)
            | requirement _ hlacking =>
                exact absurd (fun d hd => (hinvolved d hd).1) hlacking.not_all
            | standard _ _ hlacking =>
                exact absurd (fun d hd => (hinvolved d hd).2.1) hlacking.not_all
            | model _ _ _ _ hlacking =>
                exact absurd (fun d hd => (hinvolved d hd).2.2) hlacking.not_all
            | replacement _ _ _ _ hsplit hbefore hs ht =>
                obtain ⟨rfl, rfl⟩ := hrivals.unique (hkeeps.rivals hsplit hbefore hs ht)
                rfl

/-- **A `Priority` that overrides settles replacements, but not between rivals.** Where it is
the only one, and all steps that take the place of the prompt are its own, these are the
highest of its members for each placement instead of the prompt. A request is refused for two
replacements only where both of these placements are among the members; then it is refused
whatever the configuration, and for the two rivals if it breaks no other rule. -/
theorem ofRequest_overriding (hreachable : registry.Reachable) {i : Instance}
    (hi : request[position]? = some i) (hkind : Meta.ofName? i.name = some .priority)
    (hmode : modeOf i = .override)
    (hsole : ∀ q j, request[q]? = some j → Meta.ofName? j.name = some .priority → q = position) :
    (∀ e, expand registry request = .error e →
        ∀ config a b, ofRequest registry config request ≠ .error (.conflictingReplace a b))
      ∧ ∀ steps, expand registry request = .ok steps →
          (∀ s ∈ steps, Replaces s → s.introducedBy = some Meta.priority.name) →
            ∃ claims members,
              Arranges registry request steps position i .priority claims (inGroup position steps)
                ∧ ResolvesTo registry request claims (names i "decorators") members
                ∧ KeepsReplacements steps members
                ∧ RefusesRivals registry request steps members := by
  refine ⟨fun e he config a b hrequest => ?_, fun steps h hscheduled => ?_⟩
  · obtain ⟨-, steps, hsteps, -⟩ := violation_of_conflictingReplace hrequest
    cases he.symm.trans hsteps
  obtain ⟨claims, harranges⟩ := exists_arranges_inGroup h hi hkind
  obtain ⟨members, hresolves, hown⟩ := exists_members_of_arranges hreachable hi hkind harranges
  rw [hmode] at hown
  have hkeeps : KeepsReplacements steps members :=
    keepsReplacements_prioritize hown fun s hs hr =>
      mem_inGroup_of_introducedBy h hsole hs (hscheduled s hs hr)
  exact ⟨claims, members, harranges, hresolves, hkeeps, refusesRivals h hkeeps⟩

/-- A `Priority` that overrides. -/
def overriding (listed : List String) : Instance :=
  { cascade listed with bindings := .ofList [("decorators", .list (listed.map .text))] }

/-- Two notes that override the prompt, and one beside it. -/
def heralding : Request :=
  [overriding ["Herald", "Banner", "Motto"],
    note ⟨"Banner", rfl⟩ "Banner." .override .accumulate,
    note ⟨"Motto", rfl⟩ "Give the motto." .prepend .accumulate,
    note ⟨"Herald", rfl⟩ "Herald." .override .accumulate]

/-- The higher of the two is the whole output. -/
theorem ofRequest_overriding_heralding :
    ∃ steps members plan, Registry.empty.Reachable ∧ expand .empty heralding = .ok steps
      ∧ modeOf (overriding ["Herald", "Banner", "Motto"]) = .override
      ∧ (∀ s ∈ steps, Replaces s → s.introducedBy = some Meta.priority.name)
      ∧ KeepsReplacements steps members ∧ RefusesRivals .empty heralding steps members
      ∧ steps.map Step.name = ["Herald", "Motto"]
      ∧ ofRequest .empty {} heralding = .ok plan ∧ plan.render "Why?" = "Herald." := by
  obtain ⟨steps, hsteps, hscheduled, hnames⟩ : ∃ steps, expand .empty heralding = .ok steps
      ∧ (∀ s ∈ steps, Replaces s → s.introducedBy = some Meta.priority.name)
      ∧ steps.map Step.name = ["Herald", "Motto"] := ⟨_, rfl, by decide, by decide⟩
  obtain ⟨plan, hplan, hrender⟩ : ∃ plan, ofRequest .empty {} heralding = .ok plan
      ∧ plan.render "Why?" = "Herald." := ⟨_, rfl, by decide +kernel⟩
  have hsole : ∀ q j, heralding[q]? = some j → Meta.ofName? j.name = some .priority → q = 0 := by
    have hall : ∀ q (h : q < heralding.length),
        Meta.ofName? heralding[q].name = some .priority → q = 0 := by decide +kernel
    intro q j hj hkind
    obtain ⟨hlt, rfl⟩ := List.getElem?_eq_some_iff.mp hj
    exact hall q hlt hkind
  have hreachable : Registry.empty.Reachable := ⟨[], rfl⟩
  have hfirst : heralding[0]? = some (overriding ["Herald", "Banner", "Motto"]) := rfl
  obtain ⟨-, members, -, -, hkeeps, hrefuses⟩ :=
    (ofRequest_overriding hreachable hfirst rfl rfl hsole).2 steps hsteps hscheduled
  exact ⟨steps, members, plan, hreachable, hsteps, rfl, hscheduled, hkeeps, hrefuses, hnames,
    hplan, hrender⟩

/-- Two notes instead of the prompt, with different placements. -/
def rivalling : Request :=
  [overriding ["Banner", "Verdict"], note ⟨"Banner", rfl⟩ "Banner." .override .accumulate,
    note ⟨"Verdict", rfl⟩ "Verdict." .replace .accumulate]

/-- The only `Priority` overrides, and has scheduled all steps that take the place of the
prompt: but the lower of the two is left beside the higher, and the request is refused. -/
theorem ofRequest_rivalling :
    ofRequest .empty {} rivalling = .error (.conflictingReplace "Banner" "Verdict")
      ∧ modeOf (overriding ["Banner", "Verdict"]) = .override
      ∧ (rivalling.filter fun j => Meta.ofName? j.name = some .priority)
          = [overriding ["Banner", "Verdict"]]
      ∧ ∃ steps, expand .empty rivalling = .ok steps
          ∧ ∀ s ∈ steps, Replaces s → s.introducedBy = some Meta.priority.name :=
  ⟨rfl, rfl, rfl, _, rfl, by decide⟩

end Plan

end Decorate
