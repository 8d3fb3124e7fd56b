import Decorate.Plan.Expansion
import Decorate.Proofs.Binding
import Decorate.Proofs.Ledger

/-!
# Claims

While a request is expanded, names claim places in it. Claims are kept
as a list with the latest first, in which decorators that arrange others
claim their own place as well; `claimed` leaves those out and is in the
order in which the claims were made.

The invariant is `Orderly`: no place is claimed twice, and of the places
of one name the claimed ones are the first ones, claimed in their order
in the request. It carries over a whole list of names that are resolved
(`Resolved`) or dropped (`Dropped`).
-/

namespace Decorate

namespace Expansion

/-! ## Members -/

namespace Member

/-- The place that the member takes its instance from. -/
def place? (m : Member) : Option Nat :=
  match m.origin with
  | .request p => some p
  | .registry => none

def name (m : Member) : String := m.inst.name

/-- The instance is the one at its place in the request, or the latest registered
definition of its name with its defaults. -/
def Provided (registry : Registry) (request : Request) (m : Member) : Prop :=
  match m.origin with
  | .request p => request[p]? = some m.inst
  | .registry => ∃ d, registry.latest? m.name = some d ∧ Instance.withDefaults d = .ok m.inst

end Member

variable {registry : Registry} {request : Request} {name : String} {claims : Claims}

/-! ## Places -/

/-- Holds of the places with an instance of the name. -/
def isAt (request : Request) (name : String) (p : Nat) : Bool :=
  request[p]?.any fun i => i.name == name

/-- Holds of the places with a decorator that does not arrange others. -/
def isOrdinary (request : Request) (p : Nat) : Bool :=
  request[p]?.any fun i => (Meta.ofName? i.name).isNone

/-- The places with an instance of the name, in order. -/
def occurrences (request : Request) (name : String) : List Nat :=
  (List.range request.length).filter (isAt request name)

/-- The places of decorators that do not arrange others, in order. -/
def ordinaryPlaces (request : Request) : List Nat :=
  (List.range request.length).filter (isOrdinary request)

theorem isAt_iff {p : Nat} :
    isAt request name p = true ↔ ∃ i, request[p]? = some i ∧ i.name = name := by
  simp [isAt, Option.any_eq_true]

theorem isOrdinary_iff {p : Nat} :
    isOrdinary request p = true ↔ ∃ i, request[p]? = some i ∧ Meta.ofName? i.name = none := by
  simp [isOrdinary, Option.any_eq_true]

theorem isOrdinary_of_isAt {p : Nat} (h : isAt request name p = true)
    (hname : Meta.ofName? name = none) : isOrdinary request p = true := by
  obtain ⟨i, hi, rfl⟩ := isAt_iff.mp h
  exact isOrdinary_iff.mpr ⟨i, hi, hname⟩

theorem eq_of_isAt {name' : String} {p : Nat} (h : isAt request name p = true)
    (h' : isAt request name' p = true) : name = name' := by
  obtain ⟨i, hi, rfl⟩ := isAt_iff.mp h
  obtain ⟨j, hj, rfl⟩ := isAt_iff.mp h'
  rw [Option.some.inj (hi.symm.trans hj)]

theorem mem_occurrences {p : Nat} : p ∈ occurrences request name ↔ isAt request name p = true := by
  rw [occurrences, List.mem_filter, List.mem_range, and_iff_right_iff_imp]
  intro h
  obtain ⟨i, hi, -⟩ := isAt_iff.mp h
  exact (List.getElem?_eq_some_iff.mp hi).1

theorem mem_ordinaryPlaces {p : Nat} :
    p ∈ ordinaryPlaces request ↔ isOrdinary request p = true := by
  rw [ordinaryPlaces, List.mem_filter, List.mem_range, and_iff_right_iff_imp]
  intro h
  obtain ⟨i, hi, -⟩ := isOrdinary_iff.mp h
  exact (List.getElem?_eq_some_iff.mp hi).1

theorem ascending_occurrences (request : Request) (name : String) :
    (occurrences request name).Pairwise (· < ·) :=
  List.pairwise_lt_range.filter _

/-! ## The first unclaimed place -/

theorem unclaimedFrom?_eq_some :
    ∀ {rest : List Instance} {position p : Nat} {i : Instance},
      unclaimedFrom? claims name position rest = some (p, i) →
      ∃ k, p = position + k ∧ rest[k]? = some i ∧ i.name = name ∧ p ∉ claims
        ∧ ∀ k' < k, ∀ j, rest[k']? = some j → j.name = name → position + k' ∈ claims
  | [], _, _, _, h => by cases h
  | j :: rest, position, p, i, h => by
      unfold unclaimedFrom? at h
      split at h
      · rename_i hfirst
        obtain ⟨rfl, rfl⟩ := Prod.mk.inj (Option.some.inj h)
        exact ⟨0, rfl, rfl, hfirst.1, hfirst.2, fun k' hk' => absurd hk' (Nat.not_lt_zero k')⟩
      · rename_i hfirst
        obtain ⟨k, hp, hi, hname, hfree, hbefore⟩ := unclaimedFrom?_eq_some h
        refine ⟨k + 1, by omega, hi, hname, hfree, ?_⟩
        intro k' hk' j' hj' hname'
        cases k' with
        | zero =>
            obtain rfl : j = j' := Option.some.inj hj'
            exact Decidable.byContradiction fun hnot => hfirst ⟨hname', hnot⟩
        | succ k' =>
            have hmem := hbefore k' (by omega) j' hj' hname'
            rwa [Nat.add_assoc, Nat.add_comm 1 k'] at hmem

/-- What a name claims is unclaimed, and every earlier instance of it is claimed. -/
theorem unclaimed?_eq_some {p : Nat} {i : Instance}
    (h : unclaimed? request claims name = some (p, i)) :
    request[p]? = some i ∧ i.name = name ∧ p ∉ claims
      ∧ ∀ q < p, isAt request name q = true → q ∈ claims := by
  obtain ⟨k, rfl, hi, hname, hfree, hbefore⟩ := unclaimedFrom?_eq_some h
  rw [Nat.zero_add] at hfree ⊢
  refine ⟨hi, hname, hfree, fun q hq hat => ?_⟩
  obtain ⟨j, hj, hjname⟩ := isAt_iff.mp hat
  have hmem := hbefore q hq j hj hjname
  rwa [Nat.zero_add] at hmem

theorem unclaimedFrom?_eq_none :
    ∀ {rest : List Instance} {position : Nat}, unclaimedFrom? claims name position rest = none →
      ∀ (k : Nat) (j : Instance), rest[k]? = some j → j.name = name → position + k ∈ claims
  | [], _, _, _, _, hj, _ => nomatch hj
  | i :: rest, position, h, k, j, hj, hname => by
      unfold unclaimedFrom? at h
      split at h
      · cases h
      · rename_i hfirst
        cases k with
        | zero =>
            obtain rfl := Option.some.inj hj
            exact Decidable.byContradiction fun hnot => hfirst ⟨hname, hnot⟩
        | succ k =>
            have hmem := unclaimedFrom?_eq_none h k j hj hname
            rwa [Nat.add_assoc, Nat.add_comm 1 k] at hmem

/-- A name that claims nothing has all its instances claimed already. -/
theorem unclaimed?_eq_none (h : unclaimed? request claims name = none) {p : Nat}
    (hat : isAt request name p = true) : p ∈ claims := by
  obtain ⟨i, hi, hname⟩ := isAt_iff.mp hat
  have hmem := unclaimedFrom?_eq_none h p i hi hname
  rwa [Nat.zero_add] at hmem

/-! ## Orderly claims -/

/-- The claimed places of decorators that do not arrange others, the first claim first. -/
def claimed (request : Request) (claims : Claims) : List Nat :=
  claims.reverse.filter (isOrdinary request)

theorem mem_claimed {p : Nat} :
    p ∈ claimed request claims ↔ p ∈ claims ∧ isOrdinary request p = true := by
  rw [claimed, List.mem_filter, List.mem_reverse]

theorem claimed_cons_of_ordinary {p : Nat} (hp : isOrdinary request p = true) :
    claimed request (p :: claims) = claimed request claims ++ [p] := by
  rw [claimed, List.reverse_cons, List.filter_append, List.filter_cons_of_pos hp, List.filter_nil,
    claimed]

theorem claimed_cons_of_not_ordinary {p : Nat} (hp : isOrdinary request p = false) :
    claimed request (p :: claims) = claimed request claims := by
  rw [claimed, List.reverse_cons, List.filter_append,
    List.filter_cons_of_neg (Bool.eq_false_iff.mp hp), List.filter_nil, List.append_nil, claimed]

/-- No place is claimed twice, and each name claims its instances in the order of the
request. -/
structure Orderly (request : Request) (taken : List Nat) : Prop where
  nodup : taken.Nodup
  inOrder : ∀ name, Meta.ofName? name = none →
    taken.filter (isAt request name) <+: occurrences request name

theorem Orderly.nil (request : Request) : Orderly request [] :=
  ⟨List.nodup_nil, fun _ _ => List.nil_prefix⟩

/-- A name that claims its first unclaimed instance keeps claims orderly. -/
theorem Orderly.claim (h : Orderly request (claimed request claims)) {p : Nat} {i : Instance}
    (hp : unclaimed? request claims name = some (p, i)) :
    Orderly request (claimed request claims ++ [p]) := by
  obtain ⟨hi, hname, hfree, hbefore⟩ := unclaimed?_eq_some hp
  have hat : isAt request name p = true := isAt_iff.mpr ⟨i, hi, hname⟩
  refine ⟨?_, fun other hother => ?_⟩
  · refine List.nodup_append.mpr ⟨h.nodup, List.nodup_singleton _, ?_⟩
    rintro q hq _ hqp rfl
    exact hfree (List.mem_singleton.mp hqp ▸ (mem_claimed.mp hq).1)
  · rw [List.filter_append, List.filter_singleton]
    cases hsame : isAt request other p with
    | false => simpa using h.inOrder other hother
    | true =>
        obtain rfl : name = other := eq_of_isAt hat hsame
        obtain ⟨rest, hrest⟩ := h.inOrder name hother
        have hascending := hrest ▸ ascending_occurrences request name
        obtain ⟨-, hascRest, hcross⟩ := List.pairwise_append.mp hascending
        have hmem : p ∈ (claimed request claims).filter (isAt request name) ++ rest :=
          hrest ▸ mem_occurrences.mpr hat
        rcases List.mem_append.mp hmem with hmem | hmem
        · exact absurd (mem_claimed.mp (List.mem_filter.mp hmem).1).1 hfree
        · cases rest with
          | nil => cases hmem
          | cons q rest =>
              -- the next occurrence is `p`: an earlier one would be claimed already
              have hqp : q = p := by
                rcases List.mem_cons.mp hmem with rfl | hmem
                · rfl
                · have hlt : q < p := (List.pairwise_cons.mp hascRest).1 p hmem
                  have hqat : isAt request name q = true := by
                    refine mem_occurrences.mp (hrest ▸ List.mem_append_right _ ?_)
                    exact List.mem_cons_self
                  have hqmem : q ∈ (claimed request claims).filter (isAt request name) :=
                    List.mem_filter.mpr
                      ⟨mem_claimed.mpr ⟨hbefore q hlt hqat, isOrdinary_of_isAt hqat hother⟩, hqat⟩
                  exact absurd (hcross q hqmem q List.mem_cons_self) (Nat.lt_irrefl q)
              subst hqp
              refine ⟨rest, ?_⟩
              rw [cond_true, List.append_assoc, List.singleton_append]
              exact hrest

/-! ## Resolved names -/

/-- What resolving names makes of them, and of the claims. -/
structure Resolved (registry : Registry) (request : Request) (strict : Bool) (claims : Claims)
    (names : List String) (members : List Member) (claims' : Claims) : Prop where
  sublist : (members.map Member.name).Sublist names
  complete : strict = true → members.map Member.name = names
  ordinary : ∀ m ∈ members, Meta.ofName? m.name = none
  provided : ∀ m ∈ members, m.Provided registry request
  claimed : claimed request claims' = claimed request claims ++ members.filterMap Member.place?
  orderly : Orderly request (Expansion.claimed request claims) →
    Orderly request (Expansion.claimed request claims')

namespace Resolved

variable {strict : Bool} {claims₁ claims₂ claims₃ : Claims} {names₁ names₂ : List String}
  {members₁ members₂ : List Member}

theorem nil (registry : Registry) (request : Request) (strict : Bool) (claims : Claims) :
    Resolved registry request strict claims [] [] claims where
  sublist := List.Sublist.refl _
  complete _ := rfl
  ordinary _ hm := nomatch hm
  provided _ hm := nomatch hm
  claimed := (List.append_nil _).symm
  orderly := id

theorem append (h₁ : Resolved registry request strict claims₁ names₁ members₁ claims₂)
    (h₂ : Resolved registry request strict claims₂ names₂ members₂ claims₃) :
    Resolved registry request strict claims₁ (names₁ ++ names₂) (members₁ ++ members₂) claims₃ where
  sublist := by
    rw [List.map_append]
    exact h₁.sublist.append h₂.sublist
  complete hstrict := by rw [List.map_append, h₁.complete hstrict, h₂.complete hstrict]
  ordinary := List.forall_mem_append.mpr ⟨h₁.ordinary, h₂.ordinary⟩
  provided := List.forall_mem_append.mpr ⟨h₁.provided, h₂.provided⟩
  claimed := by rw [h₂.claimed, h₁.claimed, List.filterMap_append, List.append_assoc]
  orderly := h₂.orderly ∘ h₁.orderly

end Resolved

theorem latest?_of_lookup {d : Definition} (h : registry.lookup name none = .ok d) :
    registry.latest? name = some d := by
  unfold Registry.lookup at h
  cases hs : registry.shelves.get? name with
  | none =>
      rw [hs] at h
      cases h
  | some s =>
      rw [Registry.latest?, Registry.shelf, hs, Option.getD_some]
      rw [hs] at h
      simp only [Shelf.answer?] at h
      cases hlast : s.getLast? with
      | none =>
          rw [hlast] at h
          cases h
      | some e =>
          rw [hlast] at h
          rw [Except.ok.inj h]

theorem resolved_of_resolve (hreachable : registry.Reachable) {referring : String} {strict : Bool}
    {member : Option Member} {claims' : Claims}
    (h : resolve registry request referring strict claims name = .ok (member, claims')) :
    Resolved registry request strict claims [name] member.toList claims' := by
  unfold resolve at h
  split at h
  · cases h
  · rename_i hmeta
    have hname : Meta.ofName? name = none := by simpa using hmeta
    split at h
    · rename_i p i hp
      obtain ⟨rfl, rfl⟩ := Prod.mk.inj (Except.ok.inj h)
      obtain ⟨hi, rfl, -, -⟩ := unclaimed?_eq_some hp
      have hclaimed : claimed request (p :: claims) = claimed request claims ++ [p] :=
        claimed_cons_of_ordinary (isOrdinary_iff.mpr ⟨i, hi, hname⟩)
      refine ⟨List.Sublist.refl _, fun _ => rfl, ?_, ?_, hclaimed, ?_⟩
      · intro m hm
        obtain rfl := List.mem_singleton.mp hm
        exact hname
      · intro m hm
        obtain rfl := List.mem_singleton.mp hm
        exact hi
      · intro horderly
        rw [hclaimed]
        exact horderly.claim hp
    · split at h
      · rename_i d hd
        split at h
        · rename_i i hbound
          obtain ⟨rfl, rfl⟩ := Prod.mk.inj (Except.ok.inj h)
          have hlatest : registry.latest? name = some d := latest?_of_lookup hd
          have hiname : i.name = name := by
            rw [Instance.name, (Instance.bind_eq_ok_iff.mp hbound).1]
            exact hreachable.name_of_latest? hlatest
          subst hiname
          refine ⟨List.Sublist.refl _, fun _ => rfl, ?_, ?_, (List.append_nil _).symm, id⟩
          · intro m hm
            obtain rfl := List.mem_singleton.mp hm
            exact hname
          · intro m hm
            obtain rfl := List.mem_singleton.mp hm
            exact ⟨d, hlatest, hbound⟩
        · cases h
      · split at h
        · cases h
        · rename_i hstrict
          obtain ⟨rfl, rfl⟩ := Prod.mk.inj (Except.ok.inj h)
          exact ⟨List.nil_sublist _, fun h => absurd h hstrict, (fun _ hm => nomatch hm),
            (fun _ hm => nomatch hm), (List.append_nil _).symm, id⟩

theorem resolved_of_resolveAll (hreachable : registry.Reachable) {referring : String}
    {strict : Bool} :
    ∀ {names : List String} {claims claims' : Claims} {members : List Member},
      resolveAll registry request referring strict claims names = .ok (members, claims') →
      Resolved registry request strict claims names members claims'
  | [], claims, _, _, h => by
      obtain ⟨rfl, rfl⟩ := Prod.mk.inj (Except.ok.inj h)
      exact Resolved.nil registry request strict claims
  | name :: rest, claims, claims', members, h => by
      unfold resolveAll at h
      split at h
      · cases h
      · rename_i member claims₁ hfirst
        split at h
        · cases h
        · rename_i members' claims₂ hrest
          obtain ⟨rfl, rfl⟩ := Prod.mk.inj (Except.ok.inj h)
          exact (resolved_of_resolve hreachable hfirst).append
            (resolved_of_resolveAll hreachable hrest)

/-! ## Dropped names -/

/-- What dropping names makes of the claims: some of the names have each dropped one
instance, in the order of the names. -/
structure Dropped (request : Request) (claims : Claims) (names : List String)
    (places : List Nat) (claims' : Claims) : Prop where
  named : ∃ dropping, List.Sublist dropping names
    ∧ List.Forall₂ (fun name p => isAt request name p = true) dropping places
  claimed : claimed request claims' = claimed request claims ++ places
  orderly : Orderly request (Expansion.claimed request claims) →
    Orderly request (Expansion.claimed request claims')

theorem dropped_of_drop (request : Request) :
    ∀ (names : List String) (claims : Claims),
      ∃ places, Dropped request claims names places (drop request claims names)
  | [], claims => ⟨[], ⟨[], List.Sublist.slnil, .nil⟩, (List.append_nil _).symm, id⟩
  | name :: rest, claims => by
      unfold drop
      split
      · rename_i p i hp
        obtain ⟨places, ⟨dropping, hsub, hat⟩, hclaimed, horderly⟩ :=
          dropped_of_drop request rest (p :: claims)
        obtain ⟨hi, hname, -, -⟩ := unclaimed?_eq_some hp
        cases hp' : isOrdinary request p with
        | true =>
            rw [claimed_cons_of_ordinary hp'] at hclaimed horderly
            refine ⟨p :: places, ⟨name :: dropping, hsub.cons_cons name,
              .cons (isAt_iff.mpr ⟨i, hi, hname⟩) hat⟩, ?_, fun h => horderly (h.claim hp)⟩
            rw [hclaimed, List.append_assoc, List.singleton_append]
        | false =>
            rw [claimed_cons_of_not_ordinary hp'] at hclaimed horderly
            exact ⟨places, ⟨dropping, hsub.cons name, hat⟩, hclaimed, horderly⟩
      · obtain ⟨places, ⟨dropping, hsub, hat⟩, hclaimed, horderly⟩ :=
          dropped_of_drop request rest claims
        exact ⟨places, ⟨dropping, hsub.cons name, hat⟩, hclaimed, horderly⟩

end Expansion

end Decorate
