import Decorate.Proofs.Claims

/-!
# What expansion conserves

Expanding a request loses nothing and doubles nothing. The account of an
expansion (`Record`) says for each place what became of it: the steps
that stand in it, and, for a decorator that arranges others, what it
dropped and which of its members were outranked.

`Conserves` is the balance of such an account. `expand_conserves` finds
one for every expansion, by an induction over the request in which the
claims made so far stay orderly.
-/

namespace Decorate

namespace Expansion

/-! ## Accounts -/

def memberOf (s : Step) : Member := ⟨s.inst, s.origin⟩

/-- The places that steps take their instances from. -/
def places (steps : List Step) : List Nat := steps.filterMap fun s => (memberOf s).place?

/-- What became of a place in a request: the places that were dropped, one step for each
name that was resolved, and which of these steps stand in the place and which have given
way to one of higher priority. -/
structure Record where
  dropped : List Nat := []
  members : List Step := []
  steps : List Step := []
  outranked : List Step := []

namespace Record

/-- The places that were claimed, in the order in which they were. -/
def claimed (r : Record) : List Nat := r.dropped ++ places r.members

/-- The places that the record accounts for. -/
def accounted (r : Record) : List Nat := r.dropped ++ (places r.steps ++ places r.outranked)

/-- The members are the decorators of the given names, in order; some names may be
missing unless `strict` is on. -/
structure Lists (registry : Registry) (request : Request) (kind : Meta) (names : List String)
    (strict : Bool) (r : Record) : Prop where
  introduced : ∀ s ∈ r.members, s.introducedBy = some kind.name
  sublist : (r.members.map Step.name).Sublist names
  complete : strict = true → r.members.map Step.name = names
  ordinary : ∀ s ∈ r.members, Meta.ofName? s.name = none
  provided : ∀ s ∈ r.members, (memberOf s).Provided registry request

def KeepsAll (r : Record) : Prop := r.steps = r.members ∧ r.outranked = []

/-- In each placement the first member stays and outranks the others. -/
structure KeepsHighest (r : Record) : Prop where
  sublist : r.steps.Sublist r.members
  perm : (r.steps ++ r.outranked).Perm r.members
  distinct : (r.steps.map Step.placement).Nodup
  outranked : ∀ s ∈ r.outranked,
    ∃ t ∈ r.steps, t.placement = s.placement ∧ [t, s].Sublist r.members

/-- What was dropped are instances of names in the list, at most one for each mention. -/
def Drops (request : Request) (names : List String) (r : Record) : Prop :=
  ∃ dropping, List.Sublist dropping names
    ∧ List.Forall₂ (fun name p => isAt request name p = true) dropping r.dropped

end Record

/-- The branch of a `Conditional` that is taken; `rejected` is the other one. -/
def chosen (request : Request) (position : Nat) (i : Instance) : List String :=
  names i (if presentElsewhere (text? i "condition") position request then "then" else "otherwise")

def rejected (request : Request) (position : Nat) (i : Instance) : List String :=
  names i (if presentElsewhere (text? i "condition") position request then "otherwise" else "then")

def modeOf (i : Instance) : PriorityMode := PriorityMode.ofName (text? i "mode")

/-- The names that an instance has resolved. -/
def resolved (request : Request) (position : Nat) (i : Instance) : List String :=
  match Meta.ofName? i.name with
  | some .chain | some .priority => names i "decorators"
  | some .conditional => chosen request position i
  | some .version | none => []

/-- What may become of the instance at a place. -/
def Explains (registry : Registry) (request : Request) (position : Nat) (i : Instance)
    (r : Record) : Prop :=
  match Meta.ofName? i.name with
  | none => r = {} ∨ r = { steps := [stepOf ⟨i, .request position⟩ none] }
  | some .version => r = {}
  | some .chain =>
    r.dropped = [] ∧ r.KeepsAll
      ∧ r.Lists registry request .chain (names i "decorators") (flag i "stopOnFailure" true)
  | some .conditional =>
    r.Drops request (rejected request position i) ∧ r.KeepsAll
      ∧ r.Lists registry request .conditional (chosen request position i) true
  | some .priority =>
    r.dropped = [] ∧ (if modeOf i = .override then r.KeepsHighest else r.KeepsAll)
      ∧ r.Lists registry request .priority (names i "decorators") true

/-! ## Priorities -/

/-- Steps leave the first of each placement and outrank the others. -/
theorem exists_outranked :
    ∀ (taken : List Placement) (members : List Step),
      ∃ outranked, (firstOfEachPlacement taken members).Sublist members
        ∧ (firstOfEachPlacement taken members ++ outranked).Perm members
        ∧ ((firstOfEachPlacement taken members).map Step.placement).Nodup
        ∧ (∀ s ∈ firstOfEachPlacement taken members, s.placement ∉ taken)
        ∧ ∀ s ∈ outranked, s.placement ∈ taken
            ∨ ∃ t ∈ firstOfEachPlacement taken members, t.placement = s.placement
                ∧ [t, s].Sublist members
  | taken, [] =>
      ⟨[], List.Sublist.slnil, .nil, List.nodup_nil, (fun _ hs => nomatch hs),
        fun _ hs => nomatch hs⟩
  | taken, s :: rest => by
      unfold firstOfEachPlacement
      split
      · rename_i hs
        obtain ⟨out, hsub, hperm, hnodup, hfresh, hout⟩ :=
          exists_outranked taken rest
        refine ⟨s :: out, hsub.cons s, List.perm_middle.trans (hperm.cons s), hnodup, hfresh, ?_⟩
        intro t ht
        rcases List.mem_cons.mp ht with rfl | ht
        · exact Or.inl (List.contains_iff_mem.mp hs)
        · rcases hout t ht with h | ⟨u, hu, hplacement, hsub⟩
          · exact Or.inl h
          · exact Or.inr ⟨u, hu, hplacement, hsub.cons s⟩
      · rename_i hs
        obtain ⟨out, hsub, hperm, hnodup, hfresh, hout⟩ :=
          exists_outranked (s.placement :: taken) rest
        refine ⟨out, hsub.cons_cons s, hperm.cons s, ?_, ?_, ?_⟩
        · rw [List.map_cons, List.nodup_cons]
          refine ⟨fun hmem => ?_, hnodup⟩
          obtain ⟨t, ht, hplacement⟩ := List.mem_map.mp hmem
          exact hfresh t ht (hplacement ▸ List.mem_cons_self)
        · intro t ht
          rcases List.mem_cons.mp ht with rfl | ht
          · exact fun hmem => hs (List.contains_iff_mem.mpr hmem)
          · exact fun hmem => hfresh t ht (List.mem_cons_of_mem _ hmem)
        · intro t ht
          have htrest : t ∈ rest := hperm.subset (List.mem_append_right _ ht)
          rcases hout t ht with hmem | ⟨u, hu, hplacement, hsub⟩
          · rcases List.mem_cons.mp hmem with heq | hmem
            · exact Or.inr ⟨s, List.mem_cons_self, heq.symm,
                (List.singleton_sublist.mpr htrest).cons_cons s⟩
            · exact Or.inl hmem
          · exact Or.inr ⟨u, List.mem_cons_of_mem _ hu, hplacement, hsub.cons s⟩

theorem memberOf_stepOf (m : Member) (introducedBy : Option String) :
    memberOf (stepOf m introducedBy) = m := rfl

theorem memberOf_ranked (mode : PriorityMode) (highest : Option String) (group : Nat)
    (m : Member) : memberOf (ranked mode highest group m) = m := by
  cases mode <;> rfl

theorem introducedBy_ranked (mode : PriorityMode) (highest : Option String) (group : Nat)
    (m : Member) : (ranked mode highest group m).introducedBy = some Meta.priority.name := by
  cases mode <;> rfl

theorem exists_ranked (mode : PriorityMode) (explicit : Bool) (group : Nat)
    (members : List Member) :
    ∃ steps : List Step, steps.map memberOf = members
      ∧ (∀ s ∈ steps, s.introducedBy = some Meta.priority.name)
      ∧ prioritize mode explicit group members
          = if mode = .override then firstOfEachPlacement [] steps else steps := by
  cases members with
  | nil => exact ⟨[], rfl, (fun _ hs => nomatch hs), by cases mode <;> rfl⟩
  | cons first rest =>
      refine ⟨_, ?_, ?_, rfl⟩
      · rw [List.map_cons, List.map_map, memberOf_ranked]
        refine congrArg (first :: ·) ?_
        exact (List.map_congr_left fun m _ => memberOf_ranked _ _ _ m).trans (List.map_id' rest)
      · intro s hs
        rcases List.mem_cons.mp hs with rfl | hs
        · exact introducedBy_ranked _ _ _ _
        · obtain ⟨m, -, rfl⟩ := List.mem_map.mp hs
          exact introducedBy_ranked _ _ _ m

/-! ## One place -/

variable {registry : Registry} {request : Request}

theorem places_eq (steps : List Step) :
    places steps = (steps.map memberOf).filterMap Member.place? := by
  rw [List.filterMap_map]
  rfl

theorem Resolved.lists {strict : Bool} {claims claims' : Claims} {listed : List String}
    {members : List Member} (h : Resolved registry request strict claims listed members claims')
    {kind : Meta} {r : Record} (hmembers : r.members.map memberOf = members)
    (hintroduced : ∀ s ∈ r.members, s.introducedBy = some kind.name) :
    r.Lists registry request kind listed strict := by
  subst hmembers
  have hnames : (r.members.map memberOf).map Member.name = r.members.map Step.name := by
    rw [List.map_map]
    rfl
  refine ⟨hintroduced, hnames ▸ h.sublist, fun hs => hnames ▸ h.complete hs, ?_, ?_⟩
  · exact fun s hs => h.ordinary (memberOf s) (List.mem_map_of_mem hs)
  · exact fun s hs => h.provided (memberOf s) (List.mem_map_of_mem hs)

theorem map_memberOf_stepOf (members : List Member) (introducedBy : Option String) :
    (members.map (stepOf · introducedBy)).map memberOf = members := by
  rw [List.map_map]
  exact (List.map_congr_left fun m _ => memberOf_stepOf m _).trans (List.map_id' members)

/-- A place with a decorator that arranges others can be explained, and its claims are
those in the record. -/
theorem exists_record_of_expandMeta (hreachable : registry.Reachable) {kind : Meta}
    {i : Instance} (hkind : Meta.ofName? i.name = some kind) {position : Nat}
    {claims claims' : Claims} {steps : List Step}
    (h : expandMeta registry request kind i position claims = .ok (steps, claims')) :
    ∃ r : Record, r.steps = steps ∧ Explains registry request position i r
      ∧ claimed request claims' = claimed request claims ++ r.claimed
      ∧ (Orderly request (claimed request claims) → Orderly request (claimed request claims')) := by
  have hstepOf : ∀ (members : List Member) (k : Meta),
      ∀ s ∈ members.map (stepOf · (some k.name)), s.introducedBy = some k.name := by
    intro members k s hs
    obtain ⟨m, -, rfl⟩ := List.mem_map.mp hs
    rfl
  unfold expandMeta at h
  unfold Explains
  rw [hkind]
  cases kind with
  | version =>
      obtain ⟨rfl, rfl⟩ := Prod.mk.inj (Except.ok.inj h)
      exact ⟨{}, rfl, rfl, (List.append_nil _).symm, id⟩
  | chain =>
      simp only at h
      split at h
      · cases h
      · rename_i members claims₁ hresolve
        obtain ⟨rfl, rfl⟩ := Prod.mk.inj (Except.ok.inj h)
        have hresolved := resolved_of_resolveAll hreachable hresolve
        have hmembers := map_memberOf_stepOf members (some Meta.chain.name)
        refine ⟨{ members := _, steps := _ }, rfl, ⟨rfl, ⟨rfl, rfl⟩, ?_⟩, ?_, hresolved.orderly⟩
        · exact hresolved.lists hmembers (hstepOf members .chain)
        · rw [hresolved.claimed, Record.claimed, places_eq, hmembers, List.nil_append]
  | conditional =>
      simp only at h
      split at h
      · cases h
      · rename_i members claims₁ hresolve
        obtain ⟨rfl, rfl⟩ := Prod.mk.inj (Except.ok.inj h)
        obtain ⟨dropped, hdropped⟩ := dropped_of_drop request (rejected request position i) claims
        have hresolved := resolved_of_resolveAll hreachable hresolve
        have hmembers := map_memberOf_stepOf members (some Meta.conditional.name)
        refine ⟨{ dropped, members := _, steps := _ }, rfl, ⟨hdropped.named, ⟨rfl, rfl⟩, ?_⟩, ?_,
          hresolved.orderly ∘ hdropped.orderly⟩
        · exact hresolved.lists hmembers (hstepOf members .conditional)
        · rw [hresolved.claimed, Record.claimed, places_eq, hmembers, ← List.append_assoc]
          exact congrArg (· ++ _) hdropped.claimed
  | priority =>
      simp only at h
      split at h
      · cases h
      · rename_i members claims₁ hresolve
        obtain ⟨rfl, rfl⟩ := Prod.mk.inj (Except.ok.inj h)
        have hresolved := resolved_of_resolveAll hreachable hresolve
        obtain ⟨ranking, hmembers, hintroduced, hprioritize⟩ :=
          exists_ranked (modeOf i) (flag i "explicit" false) position members
        have hclaimed : claimed request claims₁ = claimed request claims ++ places ranking := by
          rw [hresolved.claimed, places_eq, hmembers]
        by_cases hmode : modeOf i = .override
        · rw [if_pos hmode] at hprioritize
          -- no placement is taken at the start, so whoever gave way did so to a member
          obtain ⟨outranked, hsub, hperm, hnodup, -, hout⟩ := exists_outranked [] ranking
          refine ⟨{ members := ranking, steps := _, outranked }, hprioritize.symm,
            ⟨rfl, ?_, hresolved.lists hmembers hintroduced⟩, hclaimed, hresolved.orderly⟩
          rw [if_pos hmode]
          refine ⟨hsub, hperm, hnodup, fun s hs => ?_⟩
          rcases hout s hs with hmem | h
          · cases hmem
          · exact h
        · rw [if_neg hmode] at hprioritize
          refine ⟨{ members := ranking, steps := _ }, hprioritize.symm,
            ⟨rfl, ?_, hresolved.lists hmembers hintroduced⟩, hclaimed, hresolved.orderly⟩
          rw [if_neg hmode]
          exact ⟨rfl, rfl⟩

theorem Record.perm_accounted_of_keepsAll {r : Record} (h : r.KeepsAll) :
    r.accounted.Perm r.claimed := by
  obtain ⟨hsteps, hout⟩ := h
  rw [Record.accounted, Record.claimed, hsteps, hout, places, places, List.filterMap_nil,
    List.append_nil]

theorem Explains.perm_accounted {position : Nat} {i : Instance} {r : Record}
    (h : Explains registry request position i r) {kind : Meta}
    (hkind : Meta.ofName? i.name = some kind) : r.accounted.Perm r.claimed := by
  unfold Explains at h
  rw [hkind] at h
  cases kind with
  | version =>
      obtain rfl := h
      exact .nil
  | chain => exact Record.perm_accounted_of_keepsAll h.2.1
  | conditional => exact Record.perm_accounted_of_keepsAll h.2.1
  | priority =>
      obtain ⟨-, hkeeps, -⟩ := h
      split at hkeeps
      · refine List.Perm.append_left r.dropped ?_
        rw [places, places, ← List.filterMap_append]
        exact hkeeps.perm.filterMap _
      · exact Record.perm_accounted_of_keepsAll hkeeps

/-- A step does not arrange others. It has the instance of its place in the request, or
one from the registry by a name that the decorator in this place has resolved. -/
structure Sourced (registry : Registry) (request : Request) (s : Step) : Prop where
  ordinary : Meta.ofName? s.name = none
  provided : (memberOf s).Provided registry request
  mentioned : s.origin = .registry →
    ∃ p i, request[p]? = some i ∧ s.name ∈ resolved request p i

theorem Record.Lists.sourced {position : Nat} {i : Instance} {r : Record} {kind : Meta}
    {listed : List String} {strict : Bool} (h : r.Lists registry request kind listed strict)
    (hi : request[position]? = some i) (hlisted : resolved request position i = listed) {s : Step}
    (hs : s ∈ r.members) : Sourced registry request s where
  ordinary := h.ordinary s hs
  provided := h.provided s hs
  mentioned _ := ⟨position, i, hi, hlisted ▸ h.sublist.subset (List.mem_map_of_mem hs)⟩

theorem Explains.sourced {position : Nat} {i : Instance} {r : Record}
    (h : Explains registry request position i r) (hi : request[position]? = some i) {s : Step}
    (hs : s ∈ r.steps) : Sourced registry request s := by
  unfold Explains at h
  split at h <;> rename_i hkind
  · rcases h with rfl | rfl
    · cases hs
    · obtain rfl := List.mem_singleton.mp hs
      exact ⟨hkind, hi, fun horigin => nomatch horigin⟩
  · obtain rfl := h
    cases hs
  · exact h.2.2.sourced hi (by rw [resolved, hkind]) (h.2.1.1 ▸ hs)
  · exact h.2.2.sourced hi (by rw [resolved, hkind]) (h.2.1.1 ▸ hs)
  · obtain ⟨-, hkeeps, hlists⟩ := h
    refine hlists.sourced hi (by rw [resolved, hkind]) ?_
    split at hkeeps
    · exact hkeeps.sublist.subset hs
    · exact hkeeps.1 ▸ hs

/-! ## The whole request -/

/-- The places from `position` on that stand for themselves when the claims are these. -/
def standing (request : Request) (claims : Claims) (position length : Nat) : List Nat :=
  (List.range' position length).filter fun p => isOrdinary request p && !claims.contains p

/-- An account of the places from `position` on, by whose claims `claims` became
`claims'`; `final` are the claims after the whole request. -/
structure Accounts (registry : Registry) (request : Request) (final : Claims) (position : Nat)
    (rest : List Instance) (claims claims' : Claims) (slots : List Slot) (account : List Record) :
    Prop where
  explains : ∀ k i r, rest[k]? = some i → account[k]? = some r →
    Explains registry request (position + k) i r
  length : account.length = rest.length
  steps : slots.flatMap (Slot.steps final) = account.flatMap Record.steps
  claimed : claimed request claims' = claimed request claims ++ account.flatMap Record.claimed
  orderly : Orderly request (Expansion.claimed request claims) →
    Orderly request (Expansion.claimed request claims')
  accounted : (account.flatMap Record.accounted).Perm
    (account.flatMap Record.claimed ++ standing request final position rest.length)

namespace Accounts

variable {final claims claims₁ claims₂ : Claims} {position : Nat} {rest : List Instance}
  {slots : List Slot} {account : List Record} {i : Instance} {r : Record}

theorem explains_cons (hr : Explains registry request position i r)
    (h : ∀ k j r', rest[k]? = some j → account[k]? = some r' →
      Explains registry request (position + 1 + k) j r') :
    ∀ k j r', (i :: rest)[k]? = some j → (r :: account)[k]? = some r' →
      Explains registry request (position + k) j r' := by
  intro k j r' hj hr'
  cases k with
  | zero =>
      obtain rfl := Option.some.inj hj
      obtain rfl := Option.some.inj hr'
      exact hr
  | succ k =>
      rw [← Nat.add_assoc, Nat.add_right_comm]
      exact h k j r' hj hr'

theorem plain (hi : request[position]? = some i) (hname : Meta.ofName? i.name = none)
    (h : Accounts registry request final (position + 1) rest claims claims₁ slots account) :
    ∃ r, Accounts registry request final position (i :: rest) claims claims₁
      (.plain i position :: slots) (r :: account) := by
  have hordinary : isOrdinary request position = true := isOrdinary_iff.mpr ⟨i, hi, hname⟩
  by_cases hfinal : position ∈ final
  · have hr : Explains registry request position i {} := by
      unfold Explains
      rw [hname]
      exact Or.inl rfl
    refine ⟨{}, explains_cons hr h.explains, congrArg (· + 1) h.length, ?_, h.claimed,
      h.orderly, ?_⟩
    · rw [List.flatMap_cons, List.flatMap_cons, h.steps, Slot.steps, if_pos hfinal]
    · have hstanding : standing request final position (rest.length + 1)
          = standing request final (position + 1) rest.length := by
        rw [standing, List.range'_succ, List.filter_cons_of_neg (by simp [hfinal]), standing]
      rw [List.length_cons, hstanding]
      exact h.accounted
  · have hr : Explains registry request position i
        { steps := [stepOf ⟨i, .request position⟩ none] } := by
      unfold Explains
      rw [hname]
      exact Or.inr rfl
    refine ⟨{ steps := [stepOf ⟨i, .request position⟩ none] }, explains_cons hr h.explains,
      congrArg (· + 1) h.length, ?_, h.claimed, h.orderly, ?_⟩
    · rw [List.flatMap_cons, List.flatMap_cons, h.steps, Slot.steps, if_neg hfinal]
    · have hstanding : standing request final position (rest.length + 1)
          = position :: standing request final (position + 1) rest.length := by
        rw [standing, List.range'_succ, List.filter_cons_of_pos (by simp [hfinal, hordinary]),
          standing]
      rw [List.length_cons, hstanding]
      exact (h.accounted.cons position).trans List.perm_middle.symm

theorem expanded {kind : Meta} (hi : request[position]? = some i)
    (hkind : Meta.ofName? i.name = some kind) (hr : Explains registry request position i r)
    (hclaimed : Expansion.claimed request claims₁
      = Expansion.claimed request (position :: claims) ++ r.claimed)
    (horderly : Orderly request (Expansion.claimed request (position :: claims)) →
      Orderly request (Expansion.claimed request claims₁))
    (h : Accounts registry request final (position + 1) rest claims₁ claims₂ slots account) :
    Accounts registry request final position (i :: rest) claims claims₂
      (.expanded r.steps :: slots) (r :: account) := by
  have hnot : isOrdinary request position = false := by
    rw [isOrdinary, hi, Option.any_some, hkind]
    rfl
  rw [claimed_cons_of_not_ordinary hnot] at hclaimed horderly
  refine ⟨explains_cons hr h.explains, congrArg (· + 1) h.length, ?_, ?_, h.orderly ∘ horderly, ?_⟩
  · rw [List.flatMap_cons, List.flatMap_cons, h.steps, Slot.steps]
  · rw [h.claimed, hclaimed, List.flatMap_cons, List.append_assoc]
  · have hstanding : standing request final position (rest.length + 1)
        = standing request final (position + 1) rest.length := by
      rw [standing, List.range'_succ, List.filter_cons_of_neg (by simp [hnot]), standing]
    rw [List.length_cons, hstanding, List.flatMap_cons, List.flatMap_cons, List.append_assoc]
    exact (hr.perm_accounted hkind).append h.accounted

end Accounts

/-- **Every expansion has an account**, by induction over the places that are left. -/
theorem exists_accounts (hreachable : registry.Reachable) (final : Claims) :
    ∀ {rest : List Instance} {position : Nat} {claims claims' : Claims} {slots : List Slot},
      rest = request.drop position →
      expandFrom registry request position claims rest = .ok (slots, claims') →
      ∃ account, Accounts registry request final position rest claims claims' slots account
  | [], position, claims, _, _, _, h => by
      obtain ⟨rfl, rfl⟩ := Prod.mk.inj (Except.ok.inj h)
      exact ⟨[], (fun _ _ _ hi => nomatch hi), rfl, rfl, (List.append_nil _).symm, id, .nil⟩
  | i :: rest, position, claims, claims', slots, hrest, h => by
      have hi : request[position]? = some i := by
        rw [← Nat.add_zero position, ← List.getElem?_drop, ← hrest]
        rfl
      have hrest' : rest = request.drop (position + 1) := by
        rw [← List.tail_drop, ← hrest]
        rfl
      unfold expandFrom at h
      split at h
      · rename_i hname
        split at h
        · cases h
        · rename_i slots₁ claims₁ hfrom
          obtain ⟨rfl, rfl⟩ := Prod.mk.inj (Except.ok.inj h)
          obtain ⟨account, hacc⟩ := exists_accounts hreachable final hrest' hfrom
          obtain ⟨r, hr⟩ := hacc.plain hi hname
          exact ⟨r :: account, hr⟩
      · rename_i kind hkind
        split at h
        · cases h
        · rename_i steps claims₁ hmeta
          split at h
          · cases h
          · rename_i slots₁ claims₂ hfrom
            obtain ⟨rfl, rfl⟩ := Prod.mk.inj (Except.ok.inj h)
            obtain ⟨account, hacc⟩ := exists_accounts hreachable final hrest' hfrom
            obtain ⟨r, rfl, hr, hclaimed, horderly⟩ :=
              exists_record_of_expandMeta hreachable hkind hmeta
            exact ⟨r :: account, hacc.expanded hi hkind hr hclaimed horderly⟩

/-! ## The balance -/

theorem sublist_places_steps :
    ∀ account : List Record,
      (places (account.flatMap Record.steps)).Sublist (account.flatMap Record.accounted)
  | [] => List.Sublist.slnil
  | r :: rest => by
      rw [List.flatMap_cons, List.flatMap_cons, places, List.filterMap_append]
      refine List.Sublist.append ?_ (sublist_places_steps rest)
      exact (List.sublist_append_left _ _).trans (List.sublist_append_right r.dropped _)

/-- What is claimed and what stands for itself make up the ordinary places. -/
theorem perm_ordinaryPlaces {claims : Claims} (h : Orderly request (claimed request claims)) :
    (claimed request claims ++ standing request claims 0 request.length).Perm
      (ordinaryPlaces request) := by
  have hstanding : standing request claims 0 request.length
      = (ordinaryPlaces request).filter fun p => !claims.contains p := by
    rw [ordinaryPlaces, List.filter_filter, standing, List.range_eq_range']
    exact List.filter_congr fun p _ => Bool.and_comm _ _
  have hnodup : (ordinaryPlaces request).Nodup := List.nodup_range.filter _
  have hclaimed : (claimed request claims).Perm
      ((ordinaryPlaces request).filter fun p => claims.contains p) := by
    refine (List.perm_ext_iff_of_nodup h.nodup (hnodup.filter _)).mpr fun p => ?_
    rw [mem_claimed, List.mem_filter, mem_ordinaryPlaces, List.contains_iff_mem, and_comm]
  rw [hstanding]
  exact (hclaimed.append_right _).trans (List.filter_append_perm _ _)

/-- The request holds no `Conditional`, and no `Priority` that overrides. -/
def KeepsEverything (request : Request) : Prop :=
  ∀ i ∈ request, Meta.ofName? i.name ≠ some .conditional
    ∧ (Meta.ofName? i.name = some .priority → modeOf i ≠ .override)

theorem Explains.accounted_eq {position : Nat} {i : Instance} {r : Record}
    (h : Explains registry request position i r)
    (hconditional : Meta.ofName? i.name ≠ some .conditional)
    (hpriority : Meta.ofName? i.name = some .priority → modeOf i ≠ .override) :
    r.accounted = places r.steps := by
  have hplain : r.dropped = [] → r.outranked = [] → r.accounted = places r.steps := by
    intro hdropped hout
    rw [Record.accounted, hdropped, hout, List.nil_append]
    exact List.append_nil _
  unfold Explains at h
  split at h
  · rcases h with rfl | rfl <;> exact hplain rfl rfl
  · obtain rfl := h
    exact hplain rfl rfl
  · exact hplain h.1 h.2.1.2
  · rename_i hkind
    exact absurd hkind hconditional
  · rename_i hkind
    obtain ⟨hdropped, hkeeps, -⟩ := h
    rw [if_neg (hpriority hkind)] at hkeeps
    exact hplain hdropped hkeeps.2

/-- The account of a whole expansion balances. -/
structure Conserves (registry : Registry) (request : Request) (steps : List Step)
    (account : List Record) : Prop where
  /-- There is one record for each place, -/
  length : account.length = request.length
  /-- which is explained by the instance there, -/
  explains : ∀ p i r, request[p]? = some i → account[p]? = some r →
    Explains registry request p i r
  /-- and the steps are those of the places, from the left. -/
  steps_eq : steps = account.flatMap Record.steps
  /-- No step arranges others, and each has its instance from the request or from the
  registry. -/
  sourced : ∀ s ∈ steps, Sourced registry request s
  /-- No place is used by two steps. -/
  used_once : (places steps).Nodup
  /-- Every place of a decorator that does not arrange others is accounted for exactly
  once: by a step, as dropped, or as outranked. -/
  accounted : (account.flatMap Record.accounted).Perm (ordinaryPlaces request)
  /-- Of the instances of a name, those claimed are the first ones, in order. -/
  in_order : ∀ name, Meta.ofName? name = none →
    (account.flatMap Record.claimed).filter (isAt request name) <+: occurrences request name
  /-- Where nothing can be dropped or outranked, every place is used by one step. -/
  used : KeepsEverything request → (places steps).Perm (ordinaryPlaces request)

/-- **Expansion conserves the request.** -/
theorem expand_conserves (hreachable : registry.Reachable) {steps : List Step}
    (h : expand registry request = .ok steps) :
    ∃ account, Conserves registry request steps account := by
  unfold expand at h
  split at h
  · cases h
  · rename_i slots claims hfrom
    obtain rfl := Except.ok.inj h
    -- the account is read off the final claims, since plain places are settled last
    obtain ⟨account, hacc⟩ := exists_accounts hreachable claims (List.drop_zero).symm hfrom
    have hclaimed : claimed request claims = account.flatMap Record.claimed := hacc.claimed
    have horderly : Orderly request (claimed request claims) := hacc.orderly (Orderly.nil request)
    have haccounted : (account.flatMap Record.accounted).Perm (ordinaryPlaces request) :=
      hacc.accounted.trans (hclaimed ▸ perm_ordinaryPlaces horderly)
    have hexplains : ∀ p i r, request[p]? = some i → account[p]? = some r →
        Explains registry request p i r := by
      intro p i r hi hr
      have h := hacc.explains p i r hi hr
      rwa [Nat.zero_add] at h
    have hmem : ∀ r ∈ account, ∃ p i, request[p]? = some i ∧ Explains registry request p i r := by
      intro r hr
      obtain ⟨p, hp⟩ := List.mem_iff_getElem?.mp hr
      have hlt : p < request.length := hacc.length ▸ (List.getElem?_eq_some_iff.mp hp).1
      exact ⟨p, request[p], List.getElem?_eq_getElem hlt,
        hexplains p _ r (List.getElem?_eq_getElem hlt) hp⟩
    have hsourced : ∀ s ∈ account.flatMap Record.steps, Sourced registry request s := by
      intro s hs
      obtain ⟨r, hr, hsr⟩ := List.mem_flatMap.mp hs
      obtain ⟨p, i, hi, hexplained⟩ := hmem r hr
      exact hexplained.sourced hi hsr
    rw [hacc.steps]
    refine ⟨account, hacc.length, hexplains, rfl, hsourced, ?_, haccounted, ?_, ?_⟩
    · have hnodup : (ordinaryPlaces request).Nodup := List.nodup_range.filter _
      exact (sublist_places_steps account).nodup (haccounted.nodup_iff.mpr hnodup)
    · rw [← hclaimed]
      exact horderly.inOrder
    · intro hkeeps
      have heq : account.flatMap Record.accounted = places (account.flatMap Record.steps) := by
        rw [places, List.filterMap_flatMap]
        refine List.flatMap_congr fun r hr => ?_
        obtain ⟨p, i, hi, hexplained⟩ := hmem r hr
        obtain ⟨hconditional, hpriority⟩ := hkeeps i (List.mem_of_getElem? hi)
        exact hexplained.accounted_eq hconditional hpriority
      rw [← heq]
      exact haccounted

/-- A decorator with text parameters and list parameters of the given names. -/
def sample (name : Name) (texts lists : List String) (declared : parametersFault? name.text []
    (texts.map (fun t => { name := t, shape := .simple .text {} })
      ++ lists.map fun l => { name := l, shape := .simple .list {} }) = none) : Definition where
  name := name
  version := .one
  category := "general"
  description := none
  parameters := texts.map (fun t => { name := t, shape := .simple .text {} })
    ++ lists.map fun l => { name := l, shape := .simple .list {} }
  template := {}
  compatibility := {}
  declared := declared
  mapped := rfl
  consistent := ⟨rfl, rfl, rfl⟩

def outline : Definition := sample ⟨"Outline", rfl⟩ [] [] rfl

/-- Two instances ranked against each other, and a branch that is not taken. -/
def sampleRequest : Request :=
  [⟨sample ⟨"Priority", rfl⟩ [] ["decorators"] rfl,
      .ofList [("decorators", .list [.text "Tone", .text "Summary"])]⟩,
    ⟨sample ⟨"Summary", rfl⟩ [] [] rfl, .empty⟩,
    ⟨sample ⟨"Tone", rfl⟩ [] [] rfl, .empty⟩,
    ⟨sample ⟨"Conditional", rfl⟩ ["condition"] ["then", "otherwise"] rfl,
      .ofList [("condition", .text "Academic"), ("then", .list [.text "Bullet"]),
        ("otherwise", .list [.text "Outline"])]⟩,
    ⟨sample ⟨"Bullet", rfl⟩ [] [] rfl, .empty⟩,
    ⟨sample ⟨"Tone", rfl⟩ [] [] rfl, .empty⟩]

/-- `Tone` outranks `Summary`, `Bullet` is dropped for an `Outline` from the registry, and
the second `Tone` stands for itself. -/
theorem expand_sampleRequest :
    ∃ registry steps, registry.Reachable ∧ expand registry sampleRequest = .ok steps
      ∧ places steps = [2, 5] ∧ steps.map Step.name = ["Tone", "Outline", "Tone"]
      ∧ ∃ account, Conserves registry sampleRequest steps account := by
  have hreachable : ((Registry.empty.obey (.register outline)).1).Reachable :=
    ⟨[.register outline], rfl⟩
  obtain ⟨steps, hsteps, hplaces, hnames⟩ :
      ∃ steps, expand (Registry.empty.obey (.register outline)).1 sampleRequest = .ok steps
        ∧ places steps = [2, 5] ∧ steps.map Step.name = ["Tone", "Outline", "Tone"] :=
    ⟨_, rfl, by decide, by decide⟩
  exact ⟨_, steps, hreachable, hsteps, hplaces, hnames, expand_conserves hreachable hsteps⟩

end Expansion

end Decorate
