import Decorate.Application
import Decorate.Proofs.Chaining
import Decorate.Proofs.Collection

/-!
# Decorators that a text does not mention

A registry is asked for the names that a text invokes, and for those
that a bound `Chain`, `Priority` or `Conditional` lists. A change to
another name makes no difference: `Change.sameBut` says that it leaves
the answers for all names but its own as they are, and
`apply_unmentioned` that a text which does not mention the name has the
same prompt, or the same error, before and after.

Between the two each function on the way from the text to its plan has
its own lemma, which says that it asks for no name but those that it
was given.
-/

namespace Decorate

/-! ## Changes to one name -/

namespace Registry

/-- What registering a definition of the name, or removing one or all of its versions, makes of
a registry. -/
inductive Change (name : String) (r : Registry) : Registry → Prop
  | registered {d : Definition} {r' : Registry} (hname : d.name.text = name)
      (h : r.register d = .ok r') : Change name r r'
  | unregistered {version : Option Version} {gone : List Definition} {r' : Registry}
      (h : r.unregister name version = .ok (gone, r')) : Change name r r'

/-- The registries answer alike for all names but one. -/
def SameBut (name : String) (r r' : Registry) : Prop :=
  ∀ other ≠ name, ∀ version, r'.lookup other version = r.lookup other version

variable {r r' : Registry} {name other : String}

theorem shelves_registerInPlace {d : Definition} (hother : other ≠ d.name.text) :
    (r.registerInPlace d).1.shelves.get? other = r.shelves.get? other := by
  simp only [registerInPlace]
  split <;> simp only [Table.get?_set, if_neg hother.symm]

theorem shelves_unregisterInPlace (hother : other ≠ name) (version : Option Version) :
    (r.unregisterInPlace name version).1.shelves.get? other = r.shelves.get? other := by
  unfold unregisterInPlace
  split
  · rfl
  · split
    · rfl
    · simp only
      split
      · rw [Table.get?_erase, if_neg hother.symm]
      · rw [Table.get?_set, if_neg hother.symm]

/-- A change to a name is none to the shelves of the others. -/
theorem Change.shelves (h : r.Change name r') (hother : other ≠ name) :
    r'.shelves.get? other = r.shelves.get? other := by
  cases h with
  | @registered d _ hname h =>
      subst hname
      unfold register at h
      cases houtcome : (r.registerInPlace d).2 with
      | error e => rw [houtcome] at h; cases h
      | ok u =>
          rw [houtcome] at h
          obtain rfl := Except.ok.inj h
          exact shelves_registerInPlace hother
  | @unregistered version gone _ h =>
      unfold unregister at h
      cases houtcome : (r.unregisterInPlace name version).2 with
      | error e => rw [houtcome] at h; cases h
      | ok removed =>
          rw [houtcome] at h
          obtain ⟨-, rfl⟩ := Prod.mk.inj (Except.ok.inj h)
          exact shelves_unregisterInPlace hother version

theorem Change.sameBut (h : r.Change name r') : r.SameBut name r' := fun other hother version => by
  rw [lookup, lookup, h.shelves hother]

end Registry

/-! ## What a text mentions -/

/-- The instance schedules decorators, and lists one of the name. -/
def Instance.Lists (i : Instance) (name : String) : Prop :=
  i.name ∈ [Meta.chain.name, Meta.priority.name, Meta.conditional.name]
    ∧ ∃ parameter ∈ ["decorators", "then", "otherwise"], name ∈ Expansion.names i parameter

instance (i : Instance) (name : String) : Decidable (i.Lists name) :=
  inferInstanceAs (Decidable (_ ∧ _))

/-- The text invokes a decorator of the name, or one that lists it once it is bound. -/
inductive Mentions (registry : Registry) (name text : String) : Prop
  | invokes {prompt : Prompt} {i : Invocation} (hread : Prompt.read text = .ok prompt)
      (hi : i ∈ prompt.invocations) (hname : i.name = name)
  | lists {prompt : Prompt} {request : List Instance} {i : Instance}
      (hread : Prompt.read text = .ok prompt)
      (hbound : Invocation.bindAll registry prompt.invocations = .ok request) (hi : i ∈ request)
      (hlists : i.Lists name)

namespace Registry.SameBut

variable {registry registry' : Registry} {name : String} (h : registry.SameBut name registry')

include h

/-! ## Binding -/

theorem bind {i : Invocation} (hi : i.name ≠ name) : i.bind registry' = i.bind registry := by
  rw [Invocation.bind, Invocation.bind, h i.name hi]

theorem bindAll : ∀ {is : List Invocation}, (∀ i ∈ is, i.name ≠ name) →
    Invocation.bindAll registry' is = Invocation.bindAll registry is
  | [], _ => rfl
  | i :: rest, his => by
      obtain ⟨hi, hrest⟩ := List.forall_mem_cons.mp his
      rw [Invocation.bindAll, Invocation.bindAll, h.bind hi, bindAll hrest]

/-! ## Expansion -/

section

open Expansion (Request Claims)

variable {request : Request}

theorem resolve {referring : String} {strict : Bool} {claims : Claims} {mentioned : String}
    (hmentioned : mentioned ≠ name) :
    Expansion.resolve registry' request referring strict claims mentioned
      = Expansion.resolve registry request referring strict claims mentioned := by
  rw [Expansion.resolve, Expansion.resolve, h mentioned hmentioned]

theorem resolveAll {referring : String} {strict : Bool} :
    ∀ {mentioned : List String}, name ∉ mentioned → ∀ claims : Claims,
      Expansion.resolveAll registry' request referring strict claims mentioned
        = Expansion.resolveAll registry request referring strict claims mentioned
  | [], _, _ => rfl
  | first :: rest, hmentioned, claims => by
      have hfirst : first ≠ name := (List.ne_of_not_mem_cons hmentioned).symm
      have hrest : name ∉ rest := List.not_mem_of_not_mem_cons hmentioned
      rw [Expansion.resolveAll, Expansion.resolveAll, h.resolve hfirst]
      simp only [resolveAll hrest]

theorem expandMeta {kind : Meta} {i : Instance} (hkind : Meta.ofName? i.name = some kind)
    (hlists : ¬ i.Lists name) (position : Nat) (claims : Claims) :
    Expansion.expandMeta registry' request kind i position claims
      = Expansion.expandMeta registry request kind i position claims := by
  have hunlisted : kind ≠ .version → ∀ parameter ∈ ["decorators", "then", "otherwise"],
      name ∉ Expansion.names i parameter := by
    intro hversion parameter hparameter hmem
    refine hlists ⟨?_, parameter, hparameter, hmem⟩
    rw [Meta.name_of_ofName? hkind]
    cases kind with
    | version => exact absurd rfl hversion
    | chain | priority | conditional => decide
  cases kind with
  | version => rfl
  | chain =>
      rw [Expansion.expandMeta, Expansion.expandMeta,
        h.resolveAll (hunlisted (by decide) "decorators" (by decide))]
  | conditional =>
      have hbranch : ∀ holds : Bool,
          name ∉ Expansion.names i (if holds then "then" else "otherwise") := by
        intro holds
        refine hunlisted (by decide) _ ?_
        cases holds <;> decide
      rw [Expansion.expandMeta, Expansion.expandMeta]
      simp only [h.resolveAll (hbranch _)]
  | priority =>
      rw [Expansion.expandMeta, Expansion.expandMeta,
        h.resolveAll (hunlisted (by decide) "decorators" (by decide))]

theorem expandFrom : ∀ {rest : List Instance} {position : Nat} {claims : Claims},
    (∀ i ∈ rest, ¬ i.Lists name) →
    Expansion.expandFrom registry' request position claims rest
      = Expansion.expandFrom registry request position claims rest
  | [], _, _, _ => rfl
  | i :: rest, position, claims, hlists => by
      obtain ⟨hi, hrest⟩ := List.forall_mem_cons.mp hlists
      rw [Expansion.expandFrom, Expansion.expandFrom]
      cases hkind : Meta.ofName? i.name with
      | none => simp only [expandFrom hrest]
      | some kind => simp only [h.expandMeta hkind hi, expandFrom hrest]

end

theorem compose {request : List Instance} (hlists : ∀ i ∈ request, ¬ i.Lists name)
    (config : Config) (base : String) :
    Decorate.compose registry' config request base
      = Decorate.compose registry config request base := by
  rw [Decorate.compose, Decorate.compose, Plan.ofRequest, Plan.ofRequest, Expansion.expand,
    Expansion.expand, h.expandFrom hlists]

end Registry.SameBut

/-! ## The prompt of a text -/

/-- **A text is not affected by decorators that it does not mention**, whether these are
registered or removed. -/
theorem apply_unmentioned {registry registry' : Registry} {name text : String}
    (hchange : registry.Change name registry') (hmentions : ¬ Mentions registry name text)
    (config : Config) : apply registry' config text = apply registry config text := by
  have hsame : registry.SameBut name registry' := hchange.sameBut
  unfold apply
  cases hread : Prompt.read text with
  | error e => rfl
  | ok prompt =>
      have hinvocations : ∀ i ∈ prompt.invocations, i.name ≠ name := fun i hi hname =>
        hmentions (.invokes hread hi hname)
      simp only [hsame.bindAll hinvocations]
      cases hbound : Invocation.bindAll registry prompt.invocations with
      | error e => rfl
      | ok request =>
          have hlists : ∀ i ∈ request, ¬ i.Lists name := fun i hi hlists =>
            hmentions (.lists hread hbound hi hlists)
          simp only [hsame.compose hlists]

/-- A registry with `Chain` and `Warm`. -/
def stocked : Registry :=
  (Registry.empty.registerAll
    [(Plan.listing .chain []).definition, (Plan.saying ⟨"Warm", rfl⟩ "Be warm.").definition]).1

def asking : String := "+++Chain(decorators=[Warm])\nWhy?"

/-- A text that asks for a chain with `Warm` does not notice that `Outline` is registered. -/
theorem apply_unmentioned_outline :
    ∃ extended, stocked.register Expansion.outline = .ok extended
      ∧ ¬ Mentions stocked "Outline" asking
      ∧ apply stocked {} asking = .ok "Be warm.\n\nWhy?"
      ∧ apply extended {} asking = .ok "Be warm.\n\nWhy?" := by
  have hread : Prompt.read asking = .ok
      ⟨[{ name := "Chain", parameters := [("decorators", .arr [.str "Warm"])] }], "Why?"⟩ := rfl
  have hbound : Invocation.bindAll stocked
      [{ name := "Chain", parameters := [("decorators", .arr [.str "Warm"])] }]
        = .ok [Plan.listing .chain ["Warm"]] := by decide +kernel
  have hmentions : ¬ Mentions stocked "Outline" asking := by
    rintro (⟨hread', hi, hname⟩ | ⟨hread', hbound', hi, hlists⟩)
    · obtain rfl := Except.ok.inj (hread.symm.trans hread')
      obtain rfl := List.mem_singleton.mp hi
      revert hname
      decide
    · obtain rfl := Except.ok.inj (hread.symm.trans hread')
      obtain rfl := Except.ok.inj (hbound.symm.trans hbound')
      obtain rfl := List.mem_singleton.mp hi
      revert hlists
      decide
  have hcomposed : apply stocked {} asking = .ok "Be warm.\n\nWhy?" := by decide +kernel
  obtain ⟨extended, hextended⟩ : ∃ extended, stocked.register Expansion.outline = .ok extended :=
    ⟨_, rfl⟩
  have hchange : stocked.Change "Outline" extended := .registered rfl hextended
  exact ⟨extended, hextended, hmentions, hcomposed,
    (apply_unmentioned hchange hmentions {}).trans hcomposed⟩

end Decorate
