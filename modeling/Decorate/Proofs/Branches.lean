import Decorate.Proofs.Mentions

/-!
# Branches

A `Conditional` schedules the decorators of one branch and drops those
of the other. Both go by the law of mentions: the rejected branch comes
first and takes one free instance for each of its mentions, and the
chosen branch has what is left (`expand_chosen`). So an instance that
the chosen branch names can be lost to the rejected one when both name
it (`expand_named_twice`).

A decorator that is mentioned in the rejected branch only loses its first
instances, one for each mention; every other one stands for itself
(`expand_rejected`, `expand_repeated`).
-/

namespace Decorate

namespace Expansion

variable {registry : Registry} {request : Request} {steps : List Step} {position : Nat}
  {i : Instance} {name : String}

/-! ## The chosen branch -/

/-- In an expansion into `steps`, the decorator at the place comes after the given claims of
those in front of it, and turns into `own`. -/
structure Arranges (registry : Registry) (request : Request) (steps : List Step) (position : Nat)
    (i : Instance) (kind : Meta) (claims : Claims) (own : List Step) : Prop where
  claimed : ∃ slots, expandFrom registry request 0 [] (request.take position) = .ok (slots, claims)
  turned : ∃ claims',
    expandMeta registry request kind i position (position :: claims) = .ok (own, claims')
  placed : own <:+: steps

theorem exists_arranges (h : expand registry request = .ok steps)
    (hi : request[position]? = some i) {kind : Meta} (hkind : Meta.ofName? i.name = some kind) :
    ∃ claims own, Arranges registry request steps position i kind claims own := by
  obtain ⟨slots, claims, slot, claims', slots', final, hfront, hturn, -, rfl⟩ := exists_turn h hi
  cases hturn with
  | plain hname =>
      rw [hname] at hkind
      cases hkind
  | @expanded kind' own _ hkind' hmeta =>
      obtain rfl : kind = kind' := Option.some.inj (hkind.symm.trans hkind')
      refine ⟨claims, own, ⟨slots, hfront⟩, ⟨claims', hmeta⟩, slots.flatMap (Slot.steps final),
        slots'.flatMap (Slot.steps final), ?_⟩
      rw [List.flatMap_append, List.flatMap_cons, List.append_assoc]
      rfl

/-- The steps of a `Conditional` are the decorators of the chosen branch. A mention there
stands for the instance that was free before the turn of the `Conditional` and has as many
in front of it as there are mentions in front of this one: all those in the rejected
branch, and those before it in the chosen one. Without such an instance it stands for the
latest registered definition. -/
structure TakesBranch (registry : Registry) (request : Request) (position : Nat) (i : Instance)
    (claims : Claims) (own : List Step) : Prop where
  names : own.map Step.name = chosen request position i
  mention : ∀ n name, (chosen request position i)[n]? = some name →
    ∃ m : Member, own[n]? = some (stepOf m (some Meta.conditional.name))
      ∧ m.StandsFor registry request name
          (free request claims name)[(rejected request position i).count name
            + ((chosen request position i).take n).count name]?

/-- **What the chosen branch schedules.** In particular the first mention of a name that the
rejected branch does not have stands for the first free instance, as it was configured. -/
theorem expand_chosen (hreachable : registry.Reachable) (h : expand registry request = .ok steps)
    (hi : request[position]? = some i) (hkind : Meta.ofName? i.name = some .conditional) :
    ∃ claims own, Arranges registry request steps position i .conditional claims own
      ∧ TakesBranch registry request position i claims own := by
  obtain ⟨claims, own, harranges⟩ := exists_arranges h hi hkind
  obtain ⟨claims', hmeta⟩ := harranges.turned
  obtain ⟨members, hresolve, hown⟩ := exists_members_of_expandMeta hkind hmeta
  have hdropping : dropping request position i = rejected request position i := by
    rw [dropping, if_pos hkind]
  have hresolved : resolved request position i = chosen request position i := by
    rw [resolved, hkind]
  have hscheduled : own = members.map (stepOf · (some Meta.conditional.name)) := hown
  have hstrict : isStrict .conditional i = true := rfl
  rw [hdropping, hresolved, hstrict] at hresolve
  have hnames := resolved_of_resolveAll hreachable hresolve
  have hall : members.map Member.name = chosen request position i := hnames.complete rfl
  refine ⟨claims, own, harranges, ⟨?_, fun n name hname => ?_⟩⟩
  · rw [hscheduled, List.map_map, ← hall]
    rfl
  · obtain ⟨m, hm, hstands⟩ := resolveAll_getElem? hresolve hname
    have hordinary : Meta.ofName? name = none := by
      have hmem : name ∈ members.map Member.name := hall ▸ List.mem_of_getElem? hname
      obtain ⟨m', hm', rfl⟩ := List.mem_map.mp hmem
      exact hnames.ordinary m' hm'
    refine ⟨m, by rw [hscheduled, List.getElem?_map, hm, Option.map_some], ?_⟩
    rwa [free_drop, free_cons_of_not_isAt (isAt_eq_false hordinary hi hkind),
      List.getElem?_drop] at hstands

def style : Definition := sample ⟨"Style", rfl⟩ ["tone"] [] rfl

def styled (tone : String) : Instance := ⟨style, .ofList [("tone", .text tone)]⟩

/-- The decorators that arrange others have names that are allowed. -/
theorem fault?_name (kind : Meta) : Name.fault? kind.name = none := by
  cases kind <;> rfl

/-- A `Conditional` whose condition does not hold, so that it rejects the first branch. -/
def unmet (rejected chosen : List String) : Instance :=
  ⟨sample ⟨Meta.conditional.name, fault?_name .conditional⟩ ["condition"] ["then", "otherwise"] rfl,
    .ofList [("condition", .text "Absent"), ("then", .list (rejected.map .text)),
      ("otherwise", .list (chosen.map .text))]⟩

/-- A registry with `Style` and `Outline`. -/
def styleRegistry : Registry := (Registry.empty.registerAll [style, outline]).1

theorem reachable_styleRegistry : styleRegistry.Reachable := ⟨[.registerAll [style, outline]], rfl⟩

/-- Both branches name `Style`. -/
def branching : Request :=
  [unmet ["Style"] ["Style", "Outline", "Style"], styled "formal", styled "casual"]

/-- The rejected branch takes the formal style, and the chosen one the casual style, an outline
from the registry, and a plain style from there. -/
theorem expand_chosen_styles :
    ∃ steps, styleRegistry.Reachable ∧ expand styleRegistry branching = .ok steps
      ∧ steps.map Step.inst = [styled "casual", ⟨outline, .empty⟩, ⟨style, .empty⟩]
      ∧ ∃ claims own,
          Arranges styleRegistry branching steps 0 (unmet ["Style"] ["Style", "Outline", "Style"])
              .conditional claims own
            ∧ TakesBranch styleRegistry branching 0 (unmet ["Style"] ["Style", "Outline", "Style"])
                claims own := by
  obtain ⟨steps, hsteps, hinst⟩ : ∃ steps, expand styleRegistry branching = .ok steps
      ∧ steps.map Step.inst = [styled "casual", ⟨outline, .empty⟩, ⟨style, .empty⟩] := ⟨_, rfl, rfl⟩
  exact ⟨steps, reachable_styleRegistry, hsteps, hinst,
    expand_chosen reachable_styleRegistry hsteps rfl rfl⟩

/-- Both branches name the one `Style`. -/
def namedTwice : Request := [unmet ["Style"] ["Style"], styled "formal"]

/-- The chosen branch names `Style`, of which a formal one is free, and gets a plain one: the
rejected branch names it too, and has taken the formal one. -/
theorem expand_named_twice :
    ∃ steps claims own, expand styleRegistry namedTwice = .ok steps
      ∧ Arranges styleRegistry namedTwice steps 0 (unmet ["Style"] ["Style"]) .conditional
          claims own
      ∧ chosen namedTwice 0 (unmet ["Style"] ["Style"]) = ["Style"]
      ∧ free namedTwice claims "Style" = [1]
      ∧ own.map Step.inst = [⟨style, .empty⟩] ∧ own.map Step.origin = [.registry]
      ∧ styled "formal" ∉ steps.map Step.inst := by
  refine ⟨_, [], _, rfl, ⟨⟨[], rfl⟩, ⟨_, rfl⟩, List.infix_refl _⟩, rfl, rfl, rfl, rfl, ?_⟩
  decide

/-! ## The rejected branch -/

/-- The step of the instance at a place, standing for itself. -/
def standAt? (request : Request) (p : Nat) : Option Step :=
  request[p]?.map fun i => stepOf ⟨i, .request p⟩ none

theorem Explains.name_mem_resolved {r : Record} (h : Explains registry request position i r)
    {kind : Meta} (hkind : Meta.ofName? i.name = some kind) {s : Step} (hs : s ∈ r.steps) :
    s.name ∈ resolved request position i := by
  have hlisted : ∀ {kind : Meta} {listed : List String} {strict : Bool},
      r.Lists registry request kind listed strict → s ∈ r.members → s.name ∈ listed :=
    fun hlists hmember => hlists.sublist.subset (List.mem_map_of_mem hmember)
  unfold Explains at h
  rw [hkind] at h
  rw [resolved, hkind]
  cases kind with
  | version =>
      obtain rfl := h
      cases hs
  | chain => exact hlisted h.2.2 (h.2.1.1 ▸ hs)
  | conditional => exact hlisted h.2.2 (h.2.1.1 ▸ hs)
  | priority =>
      obtain ⟨-, hkeeps, hlists⟩ := h
      refine hlisted hlists ?_
      split at hkeeps
      · exact hkeeps.sublist.subset hs
      · exact hkeeps.1 ▸ hs

/-- Where nothing resolves the name, the steps of the name are the instances that nobody
has claimed in the end. -/
theorem filter_steps (hreachable : registry.Reachable) (hname : Meta.ofName? name = none)
    (hresolved : ∀ q j, request[q]? = some j → name ∉ resolved request q j) (final : Claims) :
    ∀ {rest : List Instance} {position : Nat} {claims claims' : Claims} {slots : List Slot},
      rest = request.drop position →
      expandFrom registry request position claims rest = .ok (slots, claims') →
      (slots.flatMap (Slot.steps final)).filter (fun s => s.name == name)
        = ((List.range' position rest.length).filter fun p =>
            isAt request name p && !final.contains p).filterMap (standAt? request)
  | [], position, _, _, _, _, h => by
      obtain ⟨rfl, -⟩ := Prod.mk.inj (Except.ok.inj h)
      rfl
  | i :: rest, position, claims, claims', slots, hleft, h => by
      obtain ⟨slot, claims₁, slots₁, hturn, hfrom, rfl⟩ := expandFrom_cons_eq_ok_iff.mp h
      have hi := getElem?_of_cons_eq_drop hleft
      have hrest := filter_steps hreachable hname hresolved final (eq_drop_of_cons_eq_drop hleft)
        hfrom
      rw [List.flatMap_cons, List.filter_append, hrest, List.length_cons, List.range'_succ]
      cases hturn with
      | plain hplain =>
          have hat : isAt request name position = (i.name == name) := by
            rw [isAt, hi, Option.any_some]
          have hstand : standAt? request position = some (stepOf ⟨i, .request position⟩ none) := by
            rw [standAt?, hi, Option.map_some]
          by_cases hfinal : position ∈ final
          · rw [Slot.steps, if_pos hfinal, List.filter_cons_of_neg (by simp [hfinal])]
            rfl
          · rw [Slot.steps, if_neg hfinal, List.filter_singleton]
            show (bif i.name == name then _ else []) ++ _ = _
            cases hsame : i.name == name with
            | true =>
                rw [List.filter_cons_of_pos (by simp [hat, hsame, hfinal]),
                  List.filterMap_cons_some hstand]
                rfl
            | false =>
                rw [List.filter_cons_of_neg (by simp [hat, hsame])]
                rfl
      | expanded hkind hmeta =>
          -- its steps bear names that it resolves, and its place another name
          obtain ⟨r, rfl, hexplains, -, -⟩ := exists_record_of_expandMeta hreachable hkind hmeta
          have hnone : r.steps.filter (fun s => s.name == name) = [] := by
            refine List.filter_eq_nil_iff.mpr fun s hs hsame => hresolved position i hi ?_
            rw [← eq_of_beq hsame]
            exact hexplains.name_mem_resolved hkind hs
          rw [Slot.steps, hnone, List.filter_cons_of_neg (by simp [isAt_eq_false hname hi hkind])]
          rfl

/-- Mentions at one place are all mentions where no other place has any. -/
theorem count_mentionedFrom :
    ∀ {rest : List Instance} {position k : Nat} {i : Instance}, rest[k]? = some i →
      (∀ k' j, rest[k']? = some j → k' ≠ k → name ∉ mentioned request (position + k') j) →
      (mentionedFrom request position rest).count name
        = (mentioned request (position + k) i).count name
  | [], _, _, _, hi, _ => nomatch hi
  | j :: rest, position, k, i, hi, hothers => by
      have hshift : ∀ k', position + 1 + k' = position + (k' + 1) := fun k' => by omega
      rw [mentionedFrom, List.count_append]
      cases k with
      | zero =>
          obtain rfl := Option.some.inj hi
          have hrest : name ∉ mentionedFrom request (position + 1) rest := by
            intro hmem
            obtain ⟨k', j', hj', hmentioned⟩ := mem_mentionedFrom hmem
            rw [hshift] at hmentioned
            exact hothers (k' + 1) j' hj' (Nat.succ_ne_zero k') hmentioned
          rw [List.count_eq_zero_of_not_mem hrest]
          rfl
      | succ k =>
          have hbehind : rest[k]? = some i := hi
          have hfirst : name ∉ mentioned request position j :=
            hothers 0 j rfl (Nat.succ_ne_zero k).symm
          have hrest : ∀ k' j', rest[k']? = some j' → k' ≠ k →
              name ∉ mentioned request (position + 1 + k') j' := by
            intro k' j' hj' hne
            rw [hshift]
            exact hothers (k' + 1) j' hj' fun heq => hne (Nat.succ.inj heq)
          rw [List.count_eq_zero_of_not_mem hfirst, count_mentionedFrom hbehind hrest, hshift,
            Nat.zero_add]

/-- Where nothing resolves the name, the steps of the name are its instances, each standing
for itself, without the first ones, one for each mention. -/
theorem filter_of_expand (hreachable : registry.Reachable) (h : expand registry request = .ok steps)
    (hname : Meta.ofName? name = none)
    (hresolved : ∀ q j, request[q]? = some j → name ∉ resolved request q j) :
    steps.filter (fun s => s.name == name)
      = ((occurrences request name).drop ((mentionedFrom request 0 request).count name)).filterMap
          (standAt? request) := by
  unfold expand at h
  split at h
  · cases h
  · rename_i slots final hfrom
    obtain rfl := Except.ok.inj h
    have hwhole : request = request.drop 0 := rfl
    have hfree := free_expandFrom hname hwhole hfrom
    rw [free_nil] at hfree
    rw [filter_steps hreachable hname hresolved final hwhole hfrom, ← hfree, free, occurrences,
      List.filter_filter, List.range_eq_range']
    exact congrArg _ (List.filter_congr fun p _ => Bool.and_comm _ _)

theorem standAt?_ne_none {p : Nat} (h : p ∈ occurrences request name) :
    standAt? request p ≠ none := by
  obtain ⟨j, hj, -⟩ := isAt_iff.mp (mem_occurrences.mp h)
  rw [standAt?, hj]
  exact Option.some_ne_none _

/-- **What a rejected branch leaves.** A decorator that one rejected branch mentions, and no
other list, loses its first instances, one for each mention; the steps of its name are all the
others, each standing for itself. So there is none exactly when the request has no more
instances of it than the branch has mentions. -/
theorem expand_rejected (hreachable : registry.Reachable) (h : expand registry request = .ok steps)
    (hname : Meta.ofName? name = none) (hi : request[position]? = some i)
    (hkind : Meta.ofName? i.name = some .conditional)
    (hchosen : name ∉ chosen request position i)
    (hothers : ∀ q j, request[q]? = some j → q ≠ position → name ∉ mentioned request q j) :
    steps.filter (fun s => s.name == name)
        = ((occurrences request name).drop ((rejected request position i).count name)).filterMap
            (standAt? request)
      ∧ ((∀ s ∈ steps, s.name ≠ name) ↔
          (occurrences request name).length ≤ (rejected request position i).count name) := by
  have hresolved : ∀ q j, request[q]? = some j → name ∉ resolved request q j := by
    intro q j hj hmem
    by_cases hq : q = position
    · subst hq
      obtain rfl := Option.some.inj (hj.symm.trans hi)
      rw [resolved, hkind] at hmem
      exact hchosen hmem
    · exact hothers q j hj hq (List.mem_append_right _ hmem)
  have hcount : (mentionedFrom request 0 request).count name
      = (rejected request position i).count name := by
    have hall := @count_mentionedFrom request name request 0 position i hi fun q j hj hq => by
      rw [Nat.zero_add]
      exact hothers q j hj hq
    rw [hall, Nat.zero_add, mentioned, dropping, if_pos hkind, resolved, hkind, List.count_append,
      List.count_eq_zero_of_not_mem hchosen, Nat.add_zero]
  have hsteps := filter_of_expand hreachable h hname hresolved
  rw [hcount] at hsteps
  refine ⟨hsteps, ?_⟩
  calc (∀ s ∈ steps, s.name ≠ name)
      ↔ steps.filter (fun s => s.name == name) = [] := by
        rw [List.filter_eq_nil_iff]
        simp only [beq_iff_eq]
    _ ↔ (occurrences request name).drop ((rejected request position i).count name) = [] := by
        rw [hsteps, List.filterMap_eq_nil_iff, List.eq_nil_iff_forall_not_mem]
        exact forall₂_congr fun p hp =>
          ⟨fun hnone => standAt?_ne_none (List.mem_of_mem_drop hp) hnone,
            fun hfalse => hfalse.elim⟩
    _ ↔ _ := List.drop_eq_nil_iff

/-- A rejected branch with one mention of `Style`, among three of them. -/
def scattered : Request :=
  [styled "formal", unmet ["Style"] ["Outline"], styled "casual", styled "dry"]

/-- The first style is dropped and the others stand for themselves. -/
theorem expand_rejected_styles :
    ∃ steps, styleRegistry.Reachable ∧ expand styleRegistry scattered = .ok steps
      ∧ "Style" ∉ chosen scattered 1 (unmet ["Style"] ["Outline"])
      ∧ (∀ q j, scattered[q]? = some j → q ≠ 1 → "Style" ∉ mentioned scattered q j)
      ∧ steps.filter (fun s => s.name == "Style")
          = [stepOf ⟨styled "casual", .request 2⟩ none, stepOf ⟨styled "dry", .request 3⟩ none]
      ∧ ((∀ s ∈ steps, s.name ≠ "Style") ↔ (occurrences scattered "Style").length ≤ 1) := by
  have hchosen : "Style" ∉ chosen scattered 1 (unmet ["Style"] ["Outline"]) := by decide
  have hothers : ∀ q j, scattered[q]? = some j → q ≠ 1 → "Style" ∉ mentioned scattered q j := by
    intro q j hj hq
    match q, hj, hq with
    | 0, hj, _ | 2, hj, _ | 3, hj, _ =>
        obtain rfl := Option.some.inj hj
        decide
    | 1, _, hq => exact absurd rfl hq
  obtain ⟨steps, hsteps⟩ : ∃ steps, expand styleRegistry scattered = .ok steps := ⟨_, rfl⟩
  obtain ⟨hfilter, hnone⟩ :=
    expand_rejected reachable_styleRegistry hsteps (by decide) rfl rfl hchosen hothers
  exact ⟨steps, reachable_styleRegistry, hsteps, hchosen, hothers, hfilter, hnone⟩

/-- A rejected branch with one mention of `Style`, and two of them. -/
def repeated : Request := [unmet ["Style"] [], styled "formal", styled "casual"]

/-- Only the rejected branch lists `Style`, and there is a step of that name. -/
theorem expand_repeated :
    ∃ steps, expand styleRegistry repeated = .ok steps
      ∧ Meta.ofName? "Style" = none
      ∧ rejected repeated 0 (unmet ["Style"] []) = ["Style"]
      ∧ chosen repeated 0 (unmet ["Style"] []) = []
      ∧ (∀ q j, repeated[q]? = some j → q ≠ 0 → mentioned repeated q j = [])
      ∧ steps.map Step.name = ["Style"] := by
  obtain ⟨steps, hsteps, hnames⟩ : ∃ steps, expand styleRegistry repeated = .ok steps
      ∧ steps.map Step.name = ["Style"] := ⟨_, rfl, rfl⟩
  refine ⟨steps, hsteps, rfl, rfl, rfl, fun q j hj hq => ?_, hnames⟩
  match q, hj, hq with
  | 0, _, hq => exact absurd rfl hq
  | 1, hj, _ | 2, hj, _ =>
      obtain rfl := Option.some.inj hj
      rfl

end Expansion

end Decorate
