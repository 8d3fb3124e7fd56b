import Decorate.Proofs.Conservation

/-!
# Mentions

Every mention of a name takes one of its instances, the first that is
free, as long as there is one. So a list of names takes as many of the
first free instances of each name as it has mentions of it, whether the
list is dropped (`free_drop`) or resolved (`free_resolveAll`), and what
a mention that is resolved gets can be told from the mentions before it
(`resolveAll_getElem?`).

`Turn` says once what becomes of an instance when the expansion comes
to it. An expansion is a chain of turns (`exists_of_expandFrom_append`),
and the law of mentions carries over to it (`free_expandFrom`).
-/

namespace Decorate

namespace Expansion

variable {registry : Registry} {request : Request} {claims claims' : Claims} {name : String}

/-! ## Free instances -/

/-- The places with an unclaimed instance of the name, in order. -/
def free (request : Request) (claims : Claims) (name : String) : List Nat :=
  (occurrences request name).filter fun p => !claims.contains p

theorem mem_free {p : Nat} :
    p ∈ free request claims name ↔ isAt request name p = true ∧ p ∉ claims := by
  rw [free, List.mem_filter, mem_occurrences]
  simp

theorem free_nil : free request [] name = occurrences request name :=
  List.filter_eq_self.mpr fun _ _ => rfl

theorem ascending_free (request : Request) (claims : Claims) (name : String) :
    (free request claims name).Pairwise (· < ·) :=
  (ascending_occurrences request name).filter _

/-- Other places do not matter. -/
theorem free_cons_of_not_isAt {p : Nat} (h : isAt request name p = false) :
    free request (p :: claims) name = free request claims name := by
  refine List.filter_congr fun q hq => ?_
  have hne : q ≠ p := by
    rintro rfl
    rw [mem_occurrences.mp hq] at h
    cases h
  simp [hne]

theorem free_of_unclaimed?_eq_none (h : unclaimed? request claims name = none) :
    free request claims name = [] :=
  List.eq_nil_iff_forall_not_mem.mpr fun _ hp =>
    (mem_free.mp hp).2 (unclaimed?_eq_none h (mem_free.mp hp).1)

/-- The claim of a name is its first free instance. -/
theorem free_of_unclaimed?_eq_some {p : Nat} {i : Instance}
    (h : unclaimed? request claims name = some (p, i)) :
    free request claims name = p :: free request (p :: claims) name := by
  obtain ⟨hi, hname, hfree, hbefore⟩ := unclaimed?_eq_some h
  have hmem : p ∈ free request claims name := mem_free.mpr ⟨isAt_iff.mpr ⟨i, hi, hname⟩, hfree⟩
  have hmin : ∀ q ∈ free request claims name, ¬ q < p := fun q hq hlt =>
    (mem_free.mp hq).2 (hbefore q hlt (mem_free.mp hq).1)
  have hrest : free request (p :: claims) name
      = (free request claims name).filter fun q => decide (q ≠ p) := by
    rw [free, free, List.filter_filter]
    exact List.filter_congr fun q _ => by simp
  have hascending := ascending_free request claims name
  rw [hrest]
  cases hlist : free request claims name with
  | nil =>
      rw [hlist] at hmem
      cases hmem
  | cons q rest =>
      rw [hlist] at hmem hmin hascending
      obtain ⟨hlt, -⟩ := List.pairwise_cons.mp hascending
      have hqp : q = p := by
        rcases List.mem_cons.mp hmem with heq | hp
        · exact heq.symm
        · exact absurd (hlt p hp) (hmin q List.mem_cons_self)
      subst hqp
      rw [List.filter_cons_of_neg (by simp)]
      refine congrArg (q :: ·) (List.filter_eq_self.mpr fun r hr => ?_).symm
      have hne : r ≠ q := by
        rintro rfl
        exact Nat.lt_irrefl _ (hlt r hr)
      simpa using hne

/-- **A claim takes the first free instance of its name**, and no other. -/
theorem free_claim {p : Nat} {i : Instance} (h : unclaimed? request claims name = some (p, i))
    (other : String) :
    free request (p :: claims) other = (free request claims other).drop ([name].count other) := by
  obtain ⟨hi, hname, -, -⟩ := unclaimed?_eq_some h
  by_cases hsame : name = other
  · subst hsame
    rw [free_of_unclaimed?_eq_some h, List.count_singleton_self, List.drop_succ_cons,
      List.drop_zero]
  · have hat : isAt request other p = false := by
      refine Bool.eq_false_iff.mpr fun hat => hsame ?_
      exact eq_of_isAt (isAt_iff.mpr ⟨i, hi, hname⟩) hat
    rw [free_cons_of_not_isAt hat, List.count_singleton, if_neg (by simpa using hsame),
      List.drop_zero]

/-- A name without a free instance takes none. -/
theorem free_of_none (h : unclaimed? request claims name = none) (other : String) :
    free request claims other = (free request claims other).drop ([name].count other) := by
  by_cases hsame : name = other
  · subst hsame
    rw [free_of_unclaimed?_eq_none h, List.drop_nil]
  · rw [List.count_singleton, if_neg (by simpa using hsame), List.drop_zero]

theorem drop_count_cons (xs : List Nat) (first : String) (rest : List String) (other : String) :
    (xs.drop ([first].count other)).drop (rest.count other)
      = xs.drop ((first :: rest).count other) := by
  rw [List.drop_drop, ← List.count_append, List.singleton_append]

/-! ## Lists of names -/

/-- **Dropping names takes one free instance for each mention.** -/
theorem free_drop (other : String) :
    ∀ (listed : List String) (claims : Claims),
      free request (drop request claims listed) other
        = (free request claims other).drop (listed.count other)
  | [], claims => rfl
  | name :: rest, claims => by
      unfold drop
      split
      · rename_i p i hp
        rw [free_drop other rest, free_claim hp, drop_count_cons]
      · rename_i hnone
        rw [free_drop other rest, ← drop_count_cons, ← free_of_none hnone other]

theorem free_resolve {referring : String} {strict : Bool} {member : Option Member}
    (h : resolve registry request referring strict claims name = .ok (member, claims'))
    (other : String) :
    free request claims' other = (free request claims other).drop ([name].count other) := by
  unfold resolve at h
  split at h
  · cases h
  · split at h
    · rename_i p i hp
      obtain ⟨-, rfl⟩ := Prod.mk.inj (Except.ok.inj h)
      exact free_claim hp other
    · rename_i hnone
      -- a definition from the registry claims nothing
      have hsame : claims' = claims := by
        split at h
        · split at h
          · exact (Prod.mk.inj (Except.ok.inj h)).2.symm
          · cases h
        · split at h
          · cases h
          · exact (Prod.mk.inj (Except.ok.inj h)).2.symm
      rw [hsame]
      exact free_of_none hnone other

/-- **Resolving names takes one free instance for each mention.** -/
theorem free_resolveAll {referring : String} {strict : Bool} (other : String) :
    ∀ {listed : List String} {claims claims' : Claims} {members : List Member},
      resolveAll registry request referring strict claims listed = .ok (members, claims') →
      free request claims' other = (free request claims other).drop (listed.count other)
  | [], claims, _, _, h => by
      obtain ⟨-, rfl⟩ := Prod.mk.inj (Except.ok.inj h)
      rfl
  | name :: rest, claims, claims', members, h => by
      unfold resolveAll at h
      split at h
      · cases h
      · rename_i member claims₁ hfirst
        split at h
        · cases h
        · rename_i members' claims₂ hrest
          obtain ⟨-, rfl⟩ := Prod.mk.inj (Except.ok.inj h)
          rw [free_resolveAll other hrest, free_resolve hfirst, drop_count_cons]

/-- What a mention of the name stands for when the given place, if any, is the first free
one. -/
def Member.StandsFor (registry : Registry) (request : Request) (name : String) (place : Option Nat)
    (m : Member) : Prop :=
  match place with
  | some p => request[p]? = some m.inst ∧ m.origin = .request p
  | none =>
    ∃ d, registry.latest? name = some d ∧ Instance.withDefaults d = .ok m.inst
      ∧ m.origin = .registry

theorem standsFor_of_resolve {referring : String} {member : Option Member}
    (h : resolve registry request referring true claims name = .ok (member, claims')) :
    ∃ m, member = some m
      ∧ m.StandsFor registry request name (free request claims name).head? := by
  unfold resolve at h
  split at h
  · cases h
  · split at h
    · rename_i p i hp
      obtain ⟨rfl, -⟩ := Prod.mk.inj (Except.ok.inj h)
      refine ⟨_, rfl, ?_⟩
      rw [free_of_unclaimed?_eq_some hp]
      exact ⟨(unclaimed?_eq_some hp).1, rfl⟩
    · rename_i hnone
      rw [free_of_unclaimed?_eq_none hnone]
      split at h
      · rename_i d hd
        split at h
        · rename_i i hbound
          obtain ⟨rfl, -⟩ := Prod.mk.inj (Except.ok.inj h)
          exact ⟨_, rfl, d, latest?_of_lookup hd, hbound, rfl⟩
        · cases h
      · cases h

/-- **What a mention gets.** Behind `k` other mentions of its name in the list, a mention stands
for the free instance of the name that has `k` others in front of it, and without one for the
latest registered definition. -/
theorem resolveAll_getElem? {referring : String} :
    ∀ {listed : List String} {claims claims' : Claims} {members : List Member},
      resolveAll registry request referring true claims listed = .ok (members, claims') →
      ∀ {n : Nat} {name : String}, listed[n]? = some name →
        ∃ m, members[n]? = some m
          ∧ m.StandsFor registry request name
              (free request claims name)[(listed.take n).count name]?
  | [], _, _, _, _, n, name, hname => nomatch hname
  | first :: rest, claims, claims', members, h, n, name, hname => by
      unfold resolveAll at h
      split at h
      · cases h
      · rename_i member claims₁ hfirst
        split at h
        · cases h
        · rename_i members' claims₂ hrest
          obtain ⟨rfl, -⟩ := Prod.mk.inj (Except.ok.inj h)
          obtain ⟨m, rfl, hm⟩ := standsFor_of_resolve hfirst
          cases n with
          | zero =>
              obtain rfl := Option.some.inj hname
              refine ⟨m, rfl, ?_⟩
              rwa [List.take_zero, List.count_nil, ← List.head?_eq_getElem?]
          | succ n =>
              obtain ⟨m', hm', hstands⟩ := resolveAll_getElem? hrest hname
              refine ⟨m', hm', ?_⟩
              rw [free_resolve hfirst, List.getElem?_drop, ← List.count_append,
                List.singleton_append] at hstands
              exact hstands

/-! ## Decorators that arrange others -/

/-- The names of which an instance drops instances, -/
def dropping (request : Request) (position : Nat) (i : Instance) : List String :=
  if Meta.ofName? i.name = some .conditional then rejected request position i else []

/-- and all names that it has claimed for, in the order in which it does. -/
def mentioned (request : Request) (position : Nat) (i : Instance) : List String :=
  dropping request position i ++ resolved request position i

def isStrict (kind : Meta) (i : Instance) : Bool :=
  if kind = .chain then flag i "stopOnFailure" true else true

/-- The steps made of the members. -/
def scheduled (kind : Meta) (i : Instance) (position : Nat) (members : List Member) : List Step :=
  if kind = .priority then prioritize (modeOf i) (flag i "explicit" false) position members
  else members.map (stepOf · (some kind.name))

variable {position : Nat} {i : Instance} {rest : List Instance} {slot : Slot} {slots : List Slot}

/-- Every decorator that arranges others drops some names, and then schedules what others
resolve to. -/
theorem exists_members_of_expandMeta {kind : Meta} (hkind : Meta.ofName? i.name = some kind)
    {steps : List Step}
    (h : expandMeta registry request kind i position claims = .ok (steps, claims')) :
    ∃ members,
      resolveAll registry request i.name (isStrict kind i)
          (drop request claims (dropping request position i)) (resolved request position i)
        = .ok (members, claims')
      ∧ steps = scheduled kind i position members := by
  rw [dropping, resolved, hkind]
  cases kind with
  | version =>
      obtain ⟨rfl, rfl⟩ := Prod.mk.inj (Except.ok.inj h)
      exact ⟨[], rfl, rfl⟩
  | chain | priority | conditional =>
      simp only [expandMeta] at h
      split at h
      · cases h
      · rename_i members claims₁ hresolve
        obtain ⟨rfl, rfl⟩ := Prod.mk.inj (Except.ok.inj h)
        exact ⟨members, hresolve, rfl⟩

/-! ## Turns -/

/-- What becomes of the instance at a place when the expansion comes to it: the slot that it
leaves, and the claims. -/
inductive Turn (registry : Registry) (request : Request) (position : Nat) (claims : Claims)
    (i : Instance) : Slot → Claims → Prop where
  | plain (hname : Meta.ofName? i.name = none) :
      Turn registry request position claims i (.plain i position) claims
  | expanded {kind : Meta} {steps : List Step} {claims' : Claims}
      (hkind : Meta.ofName? i.name = some kind)
      (h : expandMeta registry request kind i position (position :: claims)
        = .ok (steps, claims')) :
      Turn registry request position claims i (.expanded steps) claims'

/-- An expansion is a turn, and the expansion of the places behind. -/
theorem expandFrom_cons_eq_ok_iff :
    expandFrom registry request position claims (i :: rest) = .ok (slots, claims') ↔
      ∃ slot claims₁ slots₁, Turn registry request position claims i slot claims₁
        ∧ expandFrom registry request (position + 1) claims₁ rest = .ok (slots₁, claims')
        ∧ slots = slot :: slots₁ := by
  constructor
  · intro h
    unfold expandFrom at h
    split at h
    · rename_i hname
      split at h
      · cases h
      · rename_i slots₁ claims₁ hrest
        obtain ⟨rfl, rfl⟩ := Prod.mk.inj (Except.ok.inj h)
        exact ⟨_, _, _, .plain hname, hrest, rfl⟩
    · rename_i kind hkind
      split at h
      · cases h
      · rename_i steps claims₁ hmeta
        split at h
        · cases h
        · rename_i slots₁ claims₂ hrest
          obtain ⟨rfl, rfl⟩ := Prod.mk.inj (Except.ok.inj h)
          exact ⟨_, _, _, .expanded hkind hmeta, hrest, rfl⟩
  · rintro ⟨slot, claims₁, slots₁, hturn, hrest, rfl⟩
    cases hturn with
    | plain hname => simp only [expandFrom, hname, hrest]
    | expanded hkind hmeta => simp only [expandFrom, hkind, hmeta, hrest]

/-- What an expansion has made of its places was each made in the turn of one. -/
theorem exists_turn_of_mem :
    ∀ {rest : List Instance} {position : Nat} {claims : Claims} {slots : List Slot},
      expandFrom registry request position claims rest = .ok (slots, claims') →
      ∀ {slot : Slot}, slot ∈ slots →
        ∃ k i claims₁ claims₂, rest[k]? = some i
          ∧ Turn registry request (position + k) claims₁ i slot claims₂
  | [], position, claims, slots, h, slot, hslot => by
      obtain ⟨rfl, -⟩ := Prod.mk.inj (Except.ok.inj h)
      cases hslot
  | i :: rest, position, claims, slots, h, slot, hslot => by
      obtain ⟨first, claims₁, slots₁, hturn, hfrom, rfl⟩ := expandFrom_cons_eq_ok_iff.mp h
      rcases List.mem_cons.mp hslot with rfl | hslot
      · exact ⟨0, i, claims, claims₁, rfl, hturn⟩
      · obtain ⟨k, j, claims₂, claims₃, hj, hturn⟩ := exists_turn_of_mem hfrom hslot
        rw [Nat.add_assoc, Nat.add_comm 1 k] at hturn
        exact ⟨k + 1, j, claims₂, claims₃, hj, hturn⟩

/-- An expansion goes through a front, and then through the rest with the claims of the
front. -/
theorem expandFrom_append (rest : List Instance) :
    ∀ (front : List Instance) (position : Nat) (claims : Claims),
      expandFrom registry request position claims (front ++ rest)
        = match expandFrom registry request position claims front with
          | .error e => .error e
          | .ok (slots, claims) =>
            match expandFrom registry request (position + front.length) claims rest with
            | .error e => .error e
            | .ok (slots', claims) => .ok (slots ++ slots', claims)
  | [], position, claims => by
      simp only [List.nil_append, expandFrom, List.length_nil, Nat.add_zero]
      split
      · rename_i e hrest
        exact hrest
      · rename_i slots claims₁ hrest
        exact hrest
  | i :: front, position, claims => by
      have hshift : position + (i :: front).length = position + 1 + front.length := by
        rw [List.length_cons]
        omega
      rw [List.cons_append, hshift]
      cases hkind : Meta.ofName? i.name with
      | none =>
          simp only [expandFrom, hkind, expandFrom_append rest front]
          cases expandFrom registry request (position + 1) claims front with
          | error e => rfl
          | ok r =>
              cases h : expandFrom registry request (position + 1 + front.length) r.2 rest <;>
                simp only [h, List.cons_append]
      | some kind =>
          simp only [expandFrom, hkind]
          cases expandMeta registry request kind i position (position :: claims) with
          | error e => rfl
          | ok turned =>
              simp only [expandFrom_append rest front]
              cases expandFrom registry request (position + 1) turned.2 front with
              | error e => rfl
              | ok r =>
                  cases h : expandFrom registry request (position + 1 + front.length) r.2 rest <;>
                    simp only [h, List.cons_append]

/-- Expansions can be cut between two places. -/
theorem exists_of_expandFrom_append :
    ∀ {front : List Instance} {position : Nat} {claims : Claims} {slots : List Slot},
      expandFrom registry request position claims (front ++ rest) = .ok (slots, claims') →
      ∃ slots₁ claims₁ slots₂,
        expandFrom registry request position claims front = .ok (slots₁, claims₁)
          ∧ expandFrom registry request (position + front.length) claims₁ rest
              = .ok (slots₂, claims')
          ∧ slots = slots₁ ++ slots₂ := by
  intro front position claims slots h
  rw [expandFrom_append] at h
  split at h
  · cases h
  · rename_i slots₁ claims₁ hfront
    split at h
    · cases h
    · rename_i slots₂ claims₂ hrest
      obtain ⟨rfl, rfl⟩ := Prod.mk.inj (Except.ok.inj h)
      exact ⟨slots₁, claims₁, slots₂, hfront, hrest, rfl⟩

/-- A request is what stands in front of a place, the instance there, and what stands
behind. -/
theorem take_append_cons_drop (hi : request[position]? = some i) :
    request.take position ++ i :: request.drop (position + 1) = request := by
  obtain ⟨hlt, hget⟩ := List.getElem?_eq_some_iff.mp hi
  rw [← hget, List.getElem_cons_drop, List.take_append_drop]

theorem length_take_of_getElem? (hi : request[position]? = some i) :
    (request.take position).length = position :=
  List.length_take_of_le (Nat.le_of_lt (List.getElem?_eq_some_iff.mp hi).1)

/-- The turn of the instance at a place, in the expansion of the whole request. -/
theorem exists_turn {steps : List Step} (h : expand registry request = .ok steps)
    (hi : request[position]? = some i) :
    ∃ slots claims slot claims' slots' final,
      expandFrom registry request 0 [] (request.take position) = .ok (slots, claims)
        ∧ Turn registry request position claims i slot claims'
        ∧ expandFrom registry request (position + 1) claims' (request.drop (position + 1))
            = .ok (slots', final)
        ∧ steps = (slots ++ slot :: slots').flatMap (Slot.steps final) := by
  unfold expand at h
  split at h
  · cases h
  · rename_i slots final hfrom
    obtain rfl := Except.ok.inj h
    have hcut : expandFrom registry request 0 []
        (request.take position ++ i :: request.drop (position + 1)) = .ok (slots, final) := by
      rw [take_append_cons_drop hi, hfrom]
    obtain ⟨slots₁, claims, slots₂, hfront, hback, rfl⟩ := exists_of_expandFrom_append hcut
    rw [Nat.zero_add, length_take_of_getElem? hi] at hback
    obtain ⟨slot, claims', slots', hturn, hrest, rfl⟩ := expandFrom_cons_eq_ok_iff.mp hback
    exact ⟨slots₁, claims, slot, claims', slots', final, hfront, hturn, hrest, rfl⟩

/-! ## Runs -/

/-- The place of a decorator that arranges others is none of an ordinary name. -/
theorem isAt_eq_false {kind : Meta} (hname : Meta.ofName? name = none)
    (hi : request[position]? = some i) (hkind : Meta.ofName? i.name = some kind) :
    isAt request name position = false := by
  refine Bool.eq_false_iff.mpr fun hat => ?_
  obtain ⟨j, hj, rfl⟩ := isAt_iff.mp hat
  rw [Option.some.inj (hj.symm.trans hi), hkind] at hname
  cases hname

/-- **A turn takes one free instance for each mention.** -/
theorem free_turn (hname : Meta.ofName? name = none) (hi : request[position]? = some i)
    (h : Turn registry request position claims i slot claims') :
    free request claims' name
      = (free request claims name).drop ((mentioned request position i).count name) := by
  cases h with
  | plain hplain =>
      rw [mentioned, dropping, resolved, hplain]
      rfl
  | expanded hkind hmeta =>
      obtain ⟨members, hresolve, -⟩ := exists_members_of_expandMeta hkind hmeta
      rw [free_resolveAll name hresolve, free_drop,
        free_cons_of_not_isAt (isAt_eq_false hname hi hkind), List.drop_drop, ← List.count_append,
        mentioned]

/-- The names that the instances have claimed for, the first of them at `position`. -/
def mentionedFrom (request : Request) : Nat → List Instance → List String
  | _, [] => []
  | position, i :: rest => mentioned request position i ++ mentionedFrom request (position + 1) rest

theorem mem_mentionedFrom :
    ∀ {rest : List Instance} {position : Nat}, name ∈ mentionedFrom request position rest →
      ∃ k i, rest[k]? = some i ∧ name ∈ mentioned request (position + k) i
  | i :: rest, position, h => by
      rcases List.mem_append.mp h with hi | hrest
      · exact ⟨0, i, rfl, hi⟩
      · obtain ⟨k, j, hj, hmem⟩ := mem_mentionedFrom hrest
        refine ⟨k + 1, j, hj, ?_⟩
        rwa [Nat.add_comm k 1, ← Nat.add_assoc]

/-- What is left of a request begins with the instance at its place, -/
theorem getElem?_of_cons_eq_drop (h : i :: rest = request.drop position) :
    request[position]? = some i := by
  rw [← Nat.add_zero position, ← List.getElem?_drop, ← h]
  rfl

/-- and goes on with what is left behind it. -/
theorem eq_drop_of_cons_eq_drop (h : i :: rest = request.drop position) :
    rest = request.drop (position + 1) := by
  rw [← List.tail_drop, ← h]
  rfl

/-- **An expansion takes one free instance for each mention**, by induction over its turns. -/
theorem free_expandFrom (hname : Meta.ofName? name = none) :
    ∀ {rest : List Instance} {position : Nat} {claims : Claims} {slots : List Slot},
      rest = request.drop position →
      expandFrom registry request position claims rest = .ok (slots, claims') →
      free request claims' name
        = (free request claims name).drop ((mentionedFrom request position rest).count name)
  | [], position, claims, slots, _, h => by
      obtain ⟨-, rfl⟩ := Prod.mk.inj (Except.ok.inj h)
      rfl
  | i :: rest, position, claims, slots, hleft, h => by
      obtain ⟨slot, claims₁, slots₁, hturn, hfrom, -⟩ := expandFrom_cons_eq_ok_iff.mp h
      have hi := getElem?_of_cons_eq_drop hleft
      rw [free_expandFrom hname (eq_drop_of_cons_eq_drop hleft) hfrom, free_turn hname hi hturn,
        List.drop_drop, ← List.count_append, mentionedFrom]

end Expansion

end Decorate
