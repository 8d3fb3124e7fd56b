import Decorate.Proofs.Branches
import Decorate.Proofs.Reporting

/-!
# Lenience

A `Chain` that does not stop on failure skips what it cannot have. A mention
of its list can have the instance that is left for it, or else the latest
registered definition of its name with its defaults (`Mention.available?`).

One failure is not skipped: a definition that is there, and cannot be bound
with its defaults (`Mention.Unbindable`). So a name comes to what is
available for it or to this error (`resolve_lenient`), a list to all that is
available of it or to the first of these errors (`resolveAll_lenient`), and
the chain to the steps of its list unless it fails the request
(`expand_lenient`).
-/

namespace Decorate

namespace Expansion

variable {registry : Registry} {request : Request} {position : Nat} {i : Instance}
  {claims claims' : Claims} {name : String}

/-! ## Mentions in a list -/

/-- A name in a list, and the place of the instance that is left for it, if there is one. -/
structure Mention where
  name : String
  place : Option Nat
deriving DecidableEq

/-- The mentions of a list when the places in `claims` are taken: each has the free instance of
its name with as many in front of it as the list has earlier mentions of the name. -/
def mentions (request : Request) (claims : Claims) (listed : List String) : List Mention :=
  listed.zipIdx.map fun entry =>
    ⟨entry.1, (free request claims entry.1)[(listed.take entry.2).count entry.1]?⟩

/-- The first mention of a name, which has the first free instance. -/
def mention (request : Request) (claims : Claims) (name : String) : Mention :=
  ⟨name, (free request claims name).head?⟩

theorem exists_mentions_cons (request : Request) (claims : Claims) (name : String)
    (rest : List String) :
    ∃ others, mentions request claims (name :: rest) = mention request claims name :: others := by
  rw [mentions, List.zipIdx_cons, List.map_cons, mention, List.head?_eq_getElem?]
  exact ⟨_, rfl⟩

/-- The first mention has the first free instance, and the others what is left. -/
theorem mentions_cons {claims₁ : Claims}
    (hfree : ∀ other, free request claims₁ other
      = (free request claims other).drop ([name].count other)) (rest : List String) :
    mentions request claims (name :: rest)
      = mention request claims name :: mentions request claims₁ rest := by
  rw [mentions, List.zipIdx_cons, List.map_cons, List.zipIdx_succ, List.map_map, mentions]
  congr 1
  · simp [mention, List.head?_eq_getElem?]
  · refine List.map_congr_left fun entry _ => ?_
    simp only [Function.comp_apply, List.take_succ_cons, hfree, List.getElem?_drop]
    rw [← List.count_append, List.singleton_append]

namespace Mention

/-- What the mention can stand for: the instance that is left for it, or else the latest
registered definition of its name with its defaults. -/
def available? (registry : Registry) (request : Request) (m : Mention) : Option Member :=
  match m.place with
  | some p => request[p]?.map fun i => ⟨i, .request p⟩
  | none =>
    match registry.latest? m.name with
    | none => none
    | some d =>
      match Instance.withDefaults d with
      | .ok i => some ⟨i, .registry⟩
      | .error _ => none

/-- No instance is left for the mention, and the latest registered definition of its name cannot
be bound with its defaults. -/
def Unbindable (registry : Registry) (m : Mention) (es : ParameterErrors) : Prop :=
  m.place = none ∧ ∃ d, registry.latest? m.name = some d ∧ Instance.withDefaults d = .error es

end Mention

theorem latest?_of_lookup_error {e : RegistryError} (h : registry.lookup name none = .error e) :
    registry.latest? name = none := by
  unfold Registry.lookup at h
  rw [Registry.latest?, Registry.shelf]
  cases hs : registry.shelves.get? name with
  | none => rfl
  | some s =>
      rw [hs] at h
      simp only [Shelf.answer?] at h
      rw [Option.getD_some]
      cases hlast : s.getLast? with
      | none => rfl
      | some d =>
          rw [hlast] at h
          cases h

/-- **What a name comes to where resolving is not strict**: what is available for it, unless
that cannot be bound. -/
theorem resolve_lenient (hname : Meta.ofName? name = none) (referring : String) (claims : Claims) :
    (∃ claims', resolve registry request referring false claims name
          = .ok ((mention request claims name).available? registry request, claims')
        ∧ ∀ es, ¬ (mention request claims name).Unbindable registry es)
      ∨ ∃ es, (mention request claims name).Unbindable registry es
        ∧ resolve registry request referring false claims name = .error (.binding es) := by
  have hmeta : (Meta.ofName? name).isSome = false := by rw [hname]; rfl
  unfold resolve mention
  rw [hmeta]
  cases hunclaimed : unclaimed? request claims name with
  | some found =>
      obtain ⟨p, i⟩ := found
      rw [free_of_unclaimed?_eq_some hunclaimed, List.head?_cons]
      refine Or.inl ⟨p :: claims, ?_, fun es h => nomatch h.1⟩
      simp [Mention.available?, (unclaimed?_eq_some hunclaimed).1]
  | none =>
      rw [free_of_unclaimed?_eq_none hunclaimed, List.head?_nil]
      cases hlookup : registry.lookup name none with
      | error e =>
          -- a lookup without a version fails for an unknown name only
          have hlatest := latest?_of_lookup_error hlookup
          refine Or.inl ⟨claims, by simp [Mention.available?, hlatest], fun es h => ?_⟩
          obtain ⟨-, d, hd, -⟩ := h
          cases hlatest.symm.trans hd
      | ok d =>
          have hlatest := latest?_of_lookup hlookup
          cases hbound : Instance.withDefaults d with
          | ok j =>
              refine Or.inl ⟨claims, by simp [Mention.available?, hlatest, hbound], fun es h => ?_⟩
              obtain ⟨-, d', hd, hes⟩ := h
              obtain rfl := Option.some.inj (hlatest.symm.trans hd)
              cases hbound.symm.trans hes
          | error es => exact Or.inr ⟨es, ⟨rfl, d, hlatest, hbound⟩, by simp [hbound]⟩

/-- The first of the mentions that cannot be bound, and the problems with it. -/
def FirstUnbindable (registry : Registry) (ms : List Mention) (es : ParameterErrors) : Prop :=
  ∃ before m after, ms = before ++ m :: after
    ∧ (∀ m' ∈ before, ∀ es', ¬ m'.Unbindable registry es') ∧ m.Unbindable registry es

theorem FirstUnbindable.cons {m : Mention} {ms : List Mention} {es : ParameterErrors}
    (hm : ∀ es', ¬ m.Unbindable registry es') (h : FirstUnbindable registry ms es) :
    FirstUnbindable registry (m :: ms) es := by
  obtain ⟨before, first, after, rfl, hbefore, hfirst⟩ := h
  exact ⟨m :: before, first, after, rfl, List.forall_mem_cons.mpr ⟨hm, hbefore⟩, hfirst⟩

/-- **What a list comes to where resolving is not strict**: what is available of it, up to the
first mention that cannot be bound. -/
theorem resolveAll_lenient (referring : String) :
    ∀ {listed : List String} (claims : Claims), (∀ name ∈ listed, Meta.ofName? name = none) →
      (∃ claims', resolveAll registry request referring false claims listed
            = .ok ((mentions request claims listed).filterMap (Mention.available? registry request),
                claims')
          ∧ ∀ m ∈ mentions request claims listed, ∀ es, ¬ m.Unbindable registry es)
        ∨ ∃ es, FirstUnbindable registry (mentions request claims listed) es
            ∧ resolveAll registry request referring false claims listed = .error (.binding es)
  | [], claims, _ => Or.inl ⟨claims, rfl, fun _ hm => nomatch hm⟩
  | name :: rest, claims, hlisted => by
      obtain ⟨hname, hrest⟩ := List.forall_mem_cons.mp hlisted
      unfold resolveAll
      rcases resolve_lenient hname referring claims with
        ⟨claims₁, hfirst, hbound⟩ | ⟨es, hes, hfirst⟩
      · rw [hfirst, mentions_cons (free_resolve hfirst)]
        simp only
        rcases resolveAll_lenient referring claims₁ hrest with
          ⟨claims₂, hall, hnone⟩ | ⟨es, hes, hfailed⟩
        · refine Or.inl ⟨claims₂, ?_, List.forall_mem_cons.mpr ⟨hbound, hnone⟩⟩
          rw [hall, List.filterMap_cons]
          cases (mention request claims name).available? registry request <;> rfl
        · exact Or.inr ⟨es, hes.cons hbound, by rw [hfailed]⟩
      · obtain ⟨others, hothers⟩ := exists_mentions_cons request claims name rest
        refine Or.inr ⟨es, ⟨[], _, others, hothers, (fun _ hm => nomatch hm), hes⟩, ?_⟩
        rw [hfirst]

/-! ## The turn of a chain -/

theorem mentions_congr {claims₁ claims₂ : Claims} {listed : List String}
    (h : ∀ name ∈ listed, free request claims₁ name = free request claims₂ name) :
    mentions request claims₁ listed = mentions request claims₂ listed := by
  refine List.map_congr_left fun entry hentry => ?_
  rw [h entry.1 (List.fst_mem_of_mem_zipIdx hentry)]

/-- What is available bears the name of its mention. -/
theorem name_of_available? (hreachable : registry.Reachable) {listed : List String} {m : Mention}
    (hm : m ∈ mentions request claims listed) {j : Member}
    (h : m.available? registry request = some j) : j.name = m.name := by
  obtain ⟨entry, -, rfl⟩ := List.mem_map.mp hm
  unfold Mention.available? at h
  split at h
  · rename_i p hp
    obtain ⟨i, hi, rfl⟩ := Option.map_eq_some_iff.mp h
    obtain ⟨i', hi', hname⟩ := isAt_iff.mp (mem_free.mp (List.mem_of_getElem? hp)).1
    obtain rfl := Option.some.inj (hi.symm.trans hi')
    exact hname
  · split at h
    · cases h
    · rename_i d hd
      split at h
      · rename_i i hbound
        obtain rfl := Option.some.inj h
        show i.definition.name.text = entry.1
        rw [(Instance.bind_eq_ok_iff.mp hbound).1]
        exact hreachable.name_of_latest? hd
      · cases h

/-- The steps are the decorators in the list that are available, in the order of the list. -/
structure SchedulesAvailable (registry : Registry) (request : Request) (claims : Claims)
    (listed : List String) (own : List Step) : Prop where
  members : own.map memberOf
    = (mentions request claims listed).filterMap (Mention.available? registry request)
  names : own.map Step.name
    = ((mentions request claims listed).filter fun m => (m.available? registry request).isSome).map
        Mention.name
  introduced : ∀ s ∈ own, s.introducedBy = some Meta.chain.name

/-- The steps of the available members are as the list has them. -/
theorem schedulesAvailable_map (hreachable : registry.Reachable) {listed : List String}
    {members : List Member} (hmembers : members
      = (mentions request claims listed).filterMap (Mention.available? registry request)) :
    SchedulesAvailable registry request claims listed
      (members.map (stepOf · (some Meta.chain.name))) where
  members := by rw [map_memberOf_stepOf, hmembers]
  names := by
    have hnames : (members.map (stepOf · (some Meta.chain.name))).map Step.name
        = members.map Member.name := by
      rw [List.map_map]
      rfl
    rw [hnames, hmembers, List.map_filterMap, ← List.filterMap_eq_map, List.filterMap_filter]
    refine List.filterMap_congr fun m hm => ?_
    cases havailable : m.available? registry request with
    | none => rfl
    | some j => exact congrArg some (name_of_available? hreachable hm havailable)
  introduced s hs := by
    obtain ⟨m, -, rfl⟩ := List.mem_map.mp hs
    rfl

/-- A lenient chain turns into what is available of its list, or fails at the first mention that
cannot be bound. -/
theorem expandMeta_lenient (hreachable : registry.Reachable) (hi : request[position]? = some i)
    (hkind : Meta.ofName? i.name = some .chain) (hlenient : flag i "stopOnFailure" true = false)
    (hlisted : ∀ name ∈ names i "decorators", Meta.ofName? name = none) (claims : Claims) :
    (∃ own claims',
        expandMeta registry request .chain i position (position :: claims) = .ok (own, claims')
          ∧ SchedulesAvailable registry request claims (names i "decorators") own
          ∧ ∀ m ∈ mentions request claims (names i "decorators"), ∀ es, ¬ m.Unbindable registry es)
      ∨ ∃ es, FirstUnbindable registry (mentions request claims (names i "decorators")) es
          ∧ expandMeta registry request .chain i position (position :: claims)
              = .error (.binding es) := by
  -- its own place is none of the names in the list
  have hown : mentions request (position :: claims) (names i "decorators")
      = mentions request claims (names i "decorators") :=
    mentions_congr fun name hname =>
      free_cons_of_not_isAt (isAt_eq_false (hlisted name hname) hi hkind)
  simp only [expandMeta, hlenient, ← hown]
  rcases @resolveAll_lenient registry request i.name _ (position :: claims) hlisted with
    ⟨claims', hresolve, hnone⟩ | ⟨es, hes, hresolve⟩
  · rw [hresolve]
    refine Or.inl ⟨_, claims', rfl, ?_, hnone⟩
    exact schedulesAvailable_map hreachable (by rw [hown])
  · rw [hresolve]
    exact Or.inr ⟨es, hes, rfl⟩

/-! ## Errors of an expansion -/

/-- Where the places in front of one cannot be expanded, nothing can. -/
theorem expand_eq_error_of_front {e : PlanError}
    (h : expandFrom registry request 0 [] (request.take position) = .error e) :
    expand registry request = .error e := by
  have hcut := @expandFrom_append registry request (request.drop position)
    (request.take position) 0 []
  rw [List.take_append_drop, h] at hcut
  rw [expand, hcut]

/-- Where they can, it fails as the rest does. -/
theorem expand_eq_error_iff_of_front (hi : request[position]? = some i) {slots : List Slot}
    (h : expandFrom registry request 0 [] (request.take position) = .ok (slots, claims))
    {e : PlanError} :
    expand registry request = .error e ↔
      expandFrom registry request position claims (i :: request.drop (position + 1))
        = .error e := by
  have hcut := @expandFrom_append registry request (i :: request.drop (position + 1))
    (request.take position) 0 []
  rw [take_append_cons_drop hi, h, length_take_of_getElem? hi, Nat.zero_add] at hcut
  simp only at hcut
  rw [expand, hcut]
  cases expandFrom registry request position claims (i :: request.drop (position + 1)) with
  | error e' => simp
  | ok r => simp

/-- The decorator at the place turns into `own`, and whatever goes wrong in the expansion goes
wrong behind it. -/
structure Passes (registry : Registry) (request : Request) (position : Nat) (i : Instance)
    (kind : Meta) (claims : Claims) (own : List Step) : Prop where
  arranges : ∀ steps, expand registry request = .ok steps →
    Arranges registry request steps position i kind claims own
  errors : ∃ claims',
    expandMeta registry request kind i position (position :: claims) = .ok (own, claims')
      ∧ ∀ e, expand registry request = .error e →
          expandFrom registry request (position + 1) claims' (request.drop (position + 1))
            = .error e

theorem passes_of_expandMeta (hi : request[position]? = some i) {kind : Meta}
    (hkind : Meta.ofName? i.name = some kind) {slots : List Slot}
    (hfront : expandFrom registry request 0 [] (request.take position) = .ok (slots, claims))
    {own : List Step}
    (hmeta : expandMeta registry request kind i position (position :: claims)
      = .ok (own, claims')) :
    Passes registry request position i kind claims own where
  arranges steps h := by
    obtain ⟨claims₁, own₁, harranges⟩ := exists_arranges h hi hkind
    obtain ⟨slots₁, hfront₁⟩ := harranges.claimed
    obtain ⟨-, rfl⟩ := Prod.mk.inj (Except.ok.inj (hfront.symm.trans hfront₁))
    obtain ⟨claims₂, hmeta₁⟩ := harranges.turned
    obtain ⟨rfl, -⟩ := Prod.mk.inj (Except.ok.inj (hmeta.symm.trans hmeta₁))
    exact harranges
  errors := by
    refine ⟨claims', hmeta, fun e h => ?_⟩
    rw [expand_eq_error_iff_of_front hi hfront] at h
    simp only [expandFrom, hkind, hmeta] at h
    split at h
    · rename_i e' hrest
      rw [hrest, Except.error.inj h]
    · cases h

/-- **A lenient chain fails the request only where a definition cannot be bound.** With no name
in its list that must not be listed, and whatever was taken before its turn, it turns into the
decorators of its list that are available, in order, without those that are not; all else that
goes wrong then goes wrong elsewhere. Only if one of the mentions stands for a registered
definition that cannot be bound with its defaults, the request fails with the problems of the
first such mention. -/
theorem expand_lenient (hreachable : registry.Reachable) (hi : request[position]? = some i)
    (hkind : Meta.ofName? i.name = some .chain) (hlenient : flag i "stopOnFailure" true = false)
    (hlisted : ∀ name ∈ names i "decorators", Meta.ofName? name = none) :
    (∀ e, expandFrom registry request 0 [] (request.take position) = .error e →
        expand registry request = .error e)
      ∧ ∀ slots claims,
          expandFrom registry request 0 [] (request.take position) = .ok (slots, claims) →
            ((∀ m ∈ mentions request claims (names i "decorators"),
                ∀ es, ¬ m.Unbindable registry es) →
              ∃ own, SchedulesAvailable registry request claims (names i "decorators") own
                ∧ Passes registry request position i .chain claims own)
            ∧ ((∃ m ∈ mentions request claims (names i "decorators"),
                ∃ es, m.Unbindable registry es) →
              ∃ es, FirstUnbindable registry (mentions request claims (names i "decorators")) es
                ∧ expand registry request = .error (.binding es)) := by
  refine ⟨fun e hfront => expand_eq_error_of_front hfront, fun slots claims hfront => ?_⟩
  rcases expandMeta_lenient hreachable hi hkind hlenient hlisted claims with
    ⟨own, claims', hmeta, hschedules, hnone⟩ | ⟨es, hes, hmeta⟩
  · refine ⟨fun _ => ⟨own, hschedules, passes_of_expandMeta hi hkind hfront hmeta⟩, ?_⟩
    rintro ⟨m, hm, es, hunbindable⟩
    exact absurd hunbindable (hnone m hm es)
  · refine ⟨fun hnone => ?_, fun _ => ⟨es, hes, ?_⟩⟩
    · obtain ⟨before, m, after, hsplit, -, hunbindable⟩ := hes
      have hm : m ∈ mentions request claims (names i "decorators") :=
        hsplit ▸ List.mem_append_right _ List.mem_cons_self
      exact absurd hunbindable (hnone m hm es)
    · rw [expand_eq_error_iff_of_front hi hfront]
      simp only [expandFrom, hkind, hmeta]

/-- A chain that is strict or not. -/
def chainOf (strict : Bool) (listed : List String) : Instance where
  definition :=
    { name := ⟨Meta.chain.name, fault?_name .chain⟩, version := .one, category := "meta",
      description := none,
      parameters :=
        [{ name := "decorators", shape := .simple .list {} },
          { name := "stopOnFailure", shape := .simple .boolean {} }],
      template := {}, compatibility := {}, declared := rfl, mapped := rfl,
      consistent := ⟨rfl, rfl, rfl⟩ }
  bindings :=
    .ofList [("decorators", .list (listed.map .text)), ("stopOnFailure", .bool strict)]

/-- A registry with `Outline`, and with `Reasoning`, which does not go without a topic. -/
def methodRegistry : Registry :=
  (Registry.empty.registerAll [outline, Definition.reasoning]).1

theorem reachable_methodRegistry : methodRegistry.Reachable :=
  ⟨[.registerAll [outline, Definition.reasoning]], rfl⟩

/-- A lenient chain behind one that has taken the formal style. -/
def leftovers : Request :=
  [chainOf true ["Style"], chainOf false ["Nope", "Style", "Outline", "Style"], styled "formal",
    styled "casual"]

/-- The second chain has the casual style and an outline from the registry, and skips an unknown
name and a style too many. A chain with `Reasoning` in it fails. -/
theorem expand_lenient_leftovers :
    methodRegistry.Reachable
      ∧ (∃ claims own, SchedulesAvailable methodRegistry leftovers claims
              ["Nope", "Style", "Outline", "Style"] own
            ∧ own.map Step.inst = [styled "casual", ⟨outline, .empty⟩]
            ∧ Passes methodRegistry leftovers 1
                (chainOf false ["Nope", "Style", "Outline", "Style"]) .chain claims own)
      ∧ ∃ es, expand methodRegistry [chainOf false ["Outline", "Reasoning"]]
          = .error (.binding es) := by
  obtain ⟨steps, hsteps⟩ : ∃ steps, expand methodRegistry leftovers = .ok steps := ⟨_, rfl⟩
  obtain ⟨slots, claims, hfront, hmembers⟩ : ∃ slots claims,
      expandFrom methodRegistry leftovers 0 [] (leftovers.take 1) = .ok (slots, claims)
        ∧ ((mentions leftovers claims ["Nope", "Style", "Outline", "Style"]).filterMap
            (Mention.available? methodRegistry leftovers)).map Member.inst
              = [styled "casual", ⟨outline, .empty⟩] := ⟨_, _, rfl, rfl⟩
  have hsecond : leftovers[1]? = some (chainOf false ["Nope", "Style", "Outline", "Style"]) := rfl
  obtain ⟨hschedules, hfails⟩ :=
    (expand_lenient reachable_methodRegistry hsecond rfl rfl (by decide)).2 slots claims hfront
  obtain ⟨own, hown, hpasses⟩ := hschedules fun m hm es hunbindable => by
    obtain ⟨es', -, herror⟩ := hfails ⟨m, hm, es, hunbindable⟩
    cases hsteps.symm.trans herror
  have hinst : own.map Step.inst = (own.map memberOf).map Member.inst := by
    rw [List.map_map]
    rfl
  refine ⟨reachable_methodRegistry, ⟨claims, own, hown, ?_, hpasses⟩, ?_⟩
  · exact hinst.trans (hown.members ▸ hmembers)
  · obtain ⟨es, hes⟩ : ∃ es, Instance.withDefaults Definition.reasoning = .error es := ⟨_, rfl⟩
    have honly : [chainOf false ["Outline", "Reasoning"]][0]?
        = some (chainOf false ["Outline", "Reasoning"]) := rfl
    obtain ⟨-, hrefused⟩ :=
      (expand_lenient reachable_methodRegistry honly rfl rfl (by decide)).2 [] [] rfl
    obtain ⟨es', -, herror⟩ := hrefused
      ⟨⟨"Reasoning", none⟩, by decide, es, rfl, Definition.reasoning, rfl, hes⟩
    exact ⟨es', herror⟩

/-- A lenient chain, with no name in its list that must not be mentioned, fails the request: one
of the names is registered, and cannot be bound with its defaults. -/
theorem expand_lenient_refused :
    ∃ es, expand methodRegistry [chainOf false ["Outline", "Reasoning"]] = .error (.binding es)
      ∧ flag (chainOf false ["Outline", "Reasoning"]) "stopOnFailure" true = false
      ∧ (∀ name ∈ names (chainOf false ["Outline", "Reasoning"]) "decorators",
          Meta.ofName? name = none)
      ∧ es.errors = [⟨"Reasoning", "topic", .missing⟩] :=
  ⟨_, rfl, rfl, by decide, by decide +kernel⟩

end Expansion

end Decorate
