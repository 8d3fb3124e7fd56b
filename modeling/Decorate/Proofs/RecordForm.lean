import Decorate.Definition.Record
import Decorate.Proofs.Collection

/-!
# Records read back

Each part of a definition record reads back from the document that is
written for it: schemas with the schemas of their items, templates with
both kinds of mapping, compatibility, and the record as a whole
(`DefinitionRecord.ofJson?_toJson`), on two conditions. Defaults are what
a schema can accept: an object in one could repeat a member, and null
would be no default at all. And bounds on numbers are finite, since the
others are written as null.

Writing leaves out what is empty, so a member is found in a document or
it is not (`lookup_member?`, `lookup_memberList`), and the reader's rule for
a missing member gives the empty part back. No member is written twice,
since the members of a record stand in the order of its fields.
-/

namespace Decorate

namespace Json

/-! ## Members -/

section

variable {α : Type} {write : α → Json}

@[simp] theorem lookup_cons (f field : String) (value : Json) (ms : Members) :
    List.lookup f ((field, value) :: ms) = if f = field then some value else ms.lookup f := by
  rw [List.lookup_cons]
  by_cases h : f = field <;> simp [h, beq_false_of_ne]

@[simp] theorem lookup_member? (f field : String) (value : Option α) :
    (member? field write value).lookup f = if f = field then value.map write else none := by
  cases value with
  | none => simp [member?]
  | some x => simp [member?]

@[simp] theorem lookup_memberList (f field : String) (values : List α) :
    (memberList field write values).lookup f
      = if f = field ∧ values ≠ [] then some (arr (values.map write)) else none := by
  unfold memberList
  cases values <;> simp

theorem keys_member? (field : String) (value : Option α) :
    ((member? field write value).map Prod.fst).Sublist [field] := by
  cases value <;> simp [member?]

theorem keys_memberList (field : String) (values : List α) :
    ((memberList field write values).map Prod.fst).Sublist [field] := by
  cases values <;> simp [memberList]

variable {read : Json → Option α} {ms : Members} {field : String}

theorem required?_of_lookup (j : Json) {x : α} (h : ms.lookup field = some j)
    (hread : read j = some x) : required? ms field read = some x := by
  rw [required?, h, Option.bind_some, hread]

theorem defaulted?_of_lookup (j : Json) {x default : α} (h : ms.lookup field = some j)
    (hread : read j = some x) : defaulted? ms field default read = some x := by
  simp only [defaulted?, h, hread]

/-- A value under an optional member reads back, unless it is written as null. -/
theorem optional?_of_lookup (write : α → Json) {value : Option α}
    (h : ms.lookup field = value.map write)
    (hread : ∀ x, value = some x → read (write x) = some x ∧ write x ≠ null) :
    optional? ms field read = some value := by
  cases value with
  | none => simp [optional?, h]
  | some x =>
      obtain ⟨hx, hnull⟩ := hread x rfl
      simp only [optional?, h, Option.map_some, hx]

/-- A bound reads back if it is finite; the others are written as null. -/
theorem optional?_of_lookup_double {bound : Option Double}
    (h : ms.lookup field = bound.map ofDouble)
    (hfinite : ∀ b, bound = some b → b.isFinite = true) :
    optional? ms field asDouble? = some bound :=
  optional?_of_lookup ofDouble h fun b hb =>
    ⟨asDouble?_ofDouble (hfinite b hb), ofDouble_ne_null (hfinite b hb)⟩

theorem readAll_map {β : Type} (read : β → Option α) (write : α → β) :
    ∀ {xs : List α}, (∀ x ∈ xs, read (write x) = some x) → readAll read (xs.map write) = some xs
  | [], _ => rfl
  | x :: rest, h => by
      rw [List.map_cons, readAll, h x List.mem_cons_self,
        readAll_map read write fun y hy => h y (List.mem_cons_of_mem _ hy)]

theorem asListOf?_arr (write : α → Json) {values : List α}
    (hread : ∀ x ∈ values, read (write x) = some x) :
    asListOf? read (arr (values.map write)) = some values :=
  readAll_map read write hread

theorem defaulted?_of_lookup_list (write : α → Json) {values : List α}
    (h : ms.lookup field = if values ≠ [] then some (arr (values.map write)) else none)
    (hread : ∀ x ∈ values, read (write x) = some x) :
    defaulted? ms field [] (asListOf? read) = some values := by
  cases values with
  | nil => simp [defaulted?, h]
  | cons x rest =>
      simp only [defaulted?, h, ne_eq, reduceCtorEq, not_false_eq_true, if_true]
      exact asListOf?_arr write hread

theorem lookup_eq_none (h : field ∉ ms.map Prod.fst) : ms.lookup field = none := by
  refine List.lookup_eq_none_iff.mpr fun m hm => ?_
  simpa using fun heq : field = m.1 => h (heq ▸ List.mem_map_of_mem hm)

/-- In a document whose members are all different no field is repeated. -/
theorem object?_of_nodup (fields : List String) (h : (ms.map Prod.fst).Nodup) :
    object? fields (obj ms) = some ms := by
  have hcount (f : String) : ms.countP (fun m => m.1 == f) ≤ 1 := by
    have hkeys : ms.countP (fun m => m.1 == f) = (ms.map Prod.fst).count f := by
      rw [List.count, List.countP_map]
      rfl
    rw [hkeys]
    exact List.nodup_iff_count_le_one.mp h f
  rw [object?, if_pos]
  exact List.all_eq_true.mpr fun f _ => decide_eq_true (hcount f)

/-- The same for a record, which is written as an object. -/
theorem record?_of_nodup (fields : List String) (h : (ms.map Prod.fst).Nodup) :
    record? fields (obj ms) = some ms :=
  object?_of_nodup fields h

end

end Json

/-! ## Shapes -/

namespace Limits

theorem keys_toMembers (l : Limits) : (l.toMembers.map Prod.fst).Sublist
    ["enum", "min", "max", "minLength", "maxLength", "pattern"] := by
  simp only [toMembers, List.map_append]
  exact (((((Json.keys_memberList _ _).append (Json.keys_member? _ _)).append
    (Json.keys_member? _ _)).append (Json.keys_member? _ _)).append
    (Json.keys_member? _ _)).append (Json.keys_member? _ _)

section

variable {before after : Json.Members} (hbefore : ∀ f ∈ Limits.fields, f ∉ before.map Prod.fst)
  (hafter : ∀ f ∈ Limits.fields, f ≠ "items" → after.lookup f = none)

include hbefore hafter

/-- Limits read back from among the other members of a schema. -/
theorem ofMembers?_toMembers {l : Limits} (hfinite : ∀ b ∈ l.bounds, b.isFinite = true) :
    ofMembers? (before ++ (l.toMembers ++ after)) = some l := by
  have hlookup (f : String) (hf : f ∈ Limits.fields) (hne : f ≠ "items") :
      (before ++ (l.toMembers ++ after)).lookup f = l.toMembers.lookup f := by
    rw [List.lookup_append, List.lookup_append, Json.lookup_eq_none (hbefore f hf),
      hafter f hf hne, Option.none_or, Option.or_none]
  generalize before ++ (l.toMembers ++ after) = ms at hlookup
  have hallowed : Json.defaulted? ms "enum" [] Json.asTexts? = some l.allowed :=
    Json.defaulted?_of_lookup_list .str (by
      rw [hlookup _ (by decide) (by decide)]
      simp [toMembers, List.lookup_append]) fun _ _ => rfl
  have hmin : Json.optional? ms "min" Json.asDouble? = some l.range.min :=
    Json.optional?_of_lookup_double (by
      rw [hlookup _ (by decide) (by decide)]
      simp [toMembers, List.lookup_append]) fun min hmin => hfinite min (by simp [bounds, hmin])
  have hmax : Json.optional? ms "max" Json.asDouble? = some l.range.max :=
    Json.optional?_of_lookup_double (by
      rw [hlookup _ (by decide) (by decide)]
      simp [toMembers, List.lookup_append]) fun max hmax => hfinite max (by simp [bounds, hmax])
  have hminLength : Json.optional? ms "minLength" Json.asCount? = some l.length.min :=
    Json.optional?_of_lookup Json.ofCount (by
      rw [hlookup _ (by decide) (by decide)]
      simp [toMembers, List.lookup_append])
      fun _ _ => ⟨Json.asCount?_ofCount _, Json.noConfusion⟩
  have hmaxLength : Json.optional? ms "maxLength" Json.asCount? = some l.length.max :=
    Json.optional?_of_lookup Json.ofCount (by
      rw [hlookup _ (by decide) (by decide)]
      simp [toMembers, List.lookup_append])
      fun _ _ => ⟨Json.asCount?_ofCount _, Json.noConfusion⟩
  have hpattern : Json.optional? ms "pattern" Json.asText? = some l.pattern :=
    Json.optional?_of_lookup .str (by
      rw [hlookup _ (by decide) (by decide)]
      simp [toMembers, List.lookup_append]) fun _ _ => ⟨rfl, Json.noConfusion⟩
  simp only [ofMembers?, hallowed, hmin, hmax, hminLength, hmaxLength, hpattern]
  rfl

end

end Limits

namespace Shape

/-- The document of the shape of list items. -/
def toJson (s : Shape) : Json := .obj (("type", .str s.kind.name) :: s.toMembers)

theorem keys_toMembers (s : Shape) : (s.toMembers.map Prod.fst).Sublist Limits.fields := by
  cases s with
  | simple kind limits =>
      exact (Limits.keys_toMembers limits).trans (by simp [Limits.fields])
  | withItems kind limits items =>
      rw [toMembers, List.map_append]
      exact (Limits.keys_toMembers limits).append (List.Sublist.refl ["items"])

theorem itemsOf?_append {before : Json.Members} (h : "items" ∉ before.map Prod.fst)
    (rest : Json.Members) : itemsOf? (before ++ rest) = itemsOf? rest := by
  induction before with
  | nil => rfl
  | cons m before ih =>
      obtain ⟨key, value⟩ := m
      rw [List.map_cons, List.mem_cons, not_or] at h
      have hkey : key ≠ "items" := Ne.symm h.1
      rw [List.cons_append, itemsOf?.eq_def]
      simp only [if_neg hkey, ih h.2]

section

variable {before : Json.Members} (hbefore : ∀ f ∈ Limits.fields, f ∉ before.map Prod.fst)

include hbefore

theorem ofMembers?_toMembers {s : Shape} (hfinite : ∀ b ∈ s.bounds, b.isFinite = true) :
    Limits.ofMembers? (before ++ s.toMembers) = some s.limits := by
  cases s with
  | simple kind limits =>
      have h : Limits.ofMembers? (before ++ (limits.toMembers ++ [])) = some limits :=
        Limits.ofMembers?_toMembers hbefore (fun _ _ _ => rfl) hfinite
      rwa [List.append_nil] at h
  | withItems kind limits items =>
      exact Limits.ofMembers?_toMembers hbefore (fun f _ hne => by simp [hne])
        (List.forall_mem_append.mp hfinite).1

theorem itemsOf?_toMembers (s : Shape) (hitems : ∀ items, s.items? = some items →
    ofJson? items.toJson = some items) : itemsOf? (before ++ s.toMembers) = some s.items? := by
  have hlimits (l : Limits) : "items" ∉ l.toMembers.map Prod.fst := fun hmem =>
    absurd ((Limits.keys_toMembers l).subset hmem) (by decide)
  rw [itemsOf?_append (hbefore "items" (by decide))]
  cases s with
  | simple kind limits =>
      have h := itemsOf?_append (hlimits limits) []
      rwa [List.append_nil] at h
  | withItems kind limits items =>
      have h := hitems items rfl
      rw [toMembers, itemsOf?_append (hlimits limits)]
      simp only [toJson] at h
      simp [itemsOf?, h, items?]

end

theorem ofJson?_of_items {s : Shape} (hfinite : ∀ b ∈ s.bounds, b.isFinite = true)
    (hitems : ∀ items, s.items? = some items → ofJson? items.toJson = some items) :
    ofJson? s.toJson = some s := by
  have hbefore : ∀ f ∈ Limits.fields, f ∉ [("type", Json.str s.kind.name)].map Prod.fst := by
    simp [Limits.fields]
  have hlimits := ofMembers?_toMembers hbefore hfinite
  have hinner := itemsOf?_toMembers hbefore s hitems
  rw [List.singleton_append] at hlimits hinner
  have hkeys : ((("type", Json.str s.kind.name) :: s.toMembers).map Prod.fst).Nodup :=
    (s.keys_toMembers.cons_cons "type").nodup (by decide)
  rw [toJson, ofJson?, Json.object?_of_nodup _ hkeys]
  simp only [hlimits, hinner]
  simp [Json.required?, Kind.ofItemJson?, Json.asName?]

theorem finite_items {s : Shape} (hfinite : ∀ b ∈ s.bounds, b.isFinite = true) {items : Shape}
    (hitems : s.items? = some items) : ∀ b ∈ items.bounds, b.isFinite = true := by
  cases s with
  | simple kind limits => cases hitems
  | withItems kind limits inner =>
      cases hitems
      exact (List.forall_mem_append.mp hfinite).2

/-- The shape of list items reads back. -/
theorem ofJson?_toJson {s : Shape} (hfinite : ∀ b ∈ s.bounds, b.isFinite = true) :
    ofJson? s.toJson = some s := by
  induction s with
  | simple kind limits => exact ofJson?_of_items hfinite fun _ h => by cases h
  | withItems kind limits items ih =>
      exact ofJson?_of_items hfinite fun _ h => by cases h; exact ih (finite_items hfinite rfl)

end Shape

/-! ## Schemas -/

namespace Schema

/-- The members of a schema before its limits. -/
def head (s : Schema) : Json.Members :=
  [("name", .str s.name), ("type", .str s.kind.name)]
    ++ Json.member? "description" .str s.description
    ++ Json.member? "default" id s.default
    ++ [("required", .bool s.required)]

theorem toJson_eq (s : Schema) : s.toJson = .obj (s.head ++ s.shape.toMembers) := rfl

theorem keys_head (s : Schema) :
    (s.head.map Prod.fst).Sublist ["name", "type", "description", "default", "required"] := by
  simp only [head, List.map_append]
  exact (((List.Sublist.refl ["name", "type"]).append (Json.keys_member? _ _)).append
    (Json.keys_member? _ _)).append (List.Sublist.refl ["required"])

/-- A schema reads back if its bounds are finite and its default has the form that reading
gives one. -/
theorem ofJson?_toJson {s : Schema} (hfinite : ∀ b ∈ s.shape.bounds, b.isFinite = true)
    (hdefault : ∀ j, s.default = some j → j.distinct = j ∧ j ≠ .null) :
    ofJson? s.toJson = some s := by
  have hbefore : ∀ f ∈ Limits.fields, f ∉ s.head.map Prod.fst := fun f hf hmem =>
    absurd (s.keys_head.subset hmem) ((by decide : ∀ f ∈ Limits.fields,
      f ∉ ["name", "type", "description", "default", "required"]) f hf)
  have hlimits := Shape.ofMembers?_toMembers hbefore hfinite
  have hitems := Shape.itemsOf?_toMembers hbefore s.shape fun _ h =>
    Shape.ofJson?_toJson (Shape.finite_items hfinite h)
  have hkeys : ((s.head ++ s.shape.toMembers).map Prod.fst).Nodup := by
    rw [List.map_append]
    exact (s.keys_head.append s.shape.keys_toMembers).nodup (by decide)
  have hlookup (f : String) (hf : f ∉ Limits.fields) :
      (s.head ++ s.shape.toMembers).lookup f = s.head.lookup f := by
    rw [List.lookup_append, Json.lookup_eq_none fun hmem => hf (s.shape.keys_toMembers.subset hmem),
      Option.or_none]
  have hdescription : Json.optional? (s.head ++ s.shape.toMembers) "description" Json.asText?
      = some s.description :=
    Json.optional?_of_lookup .str (by
      rw [hlookup _ (by decide)]
      simp [head, List.lookup_append]) fun _ _ => ⟨rfl, Json.noConfusion⟩
  have hdefault : Json.optional? (s.head ++ s.shape.toMembers) "default" (fun j => some j.distinct)
      = some s.default :=
    Json.optional?_of_lookup id (by
      rw [hlookup _ (by decide)]
      simp [head, List.lookup_append]) fun j hj =>
        ⟨congrArg some (hdefault j hj).1, (hdefault j hj).2⟩
  have hname : Json.required? (s.head ++ s.shape.toMembers) "name" Json.asText? = some s.name :=
    Json.required?_of_lookup (.str s.name) (by
      rw [hlookup _ (by decide)]
      simp [head]) rfl
  have hkind : Json.required? (s.head ++ s.shape.toMembers) "type" (Json.asName? Kind.ofName?)
      = some s.kind :=
    Json.required?_of_lookup (.str s.kind.name) (by
      rw [hlookup _ (by decide)]
      simp [head]) s.kind.ofName?_name
  have hrequired : Json.defaulted? (s.head ++ s.shape.toMembers) "required" false Json.asBool?
      = some s.required :=
    Json.defaulted?_of_lookup (.bool s.required) (by
      rw [hlookup _ (by decide)]
      simp [head, List.lookup_append]) rfl
  rw [toJson_eq, ofJson?, Json.object?_of_nodup _ hkeys]
  simp only [Option.bind_eq_bind, Option.bind_some, hname, hkind, hdescription, hdefault,
    hrequired, hlimits, hitems]
  simp [kind]

end Schema

/-! ## Templates -/

namespace Mapping

theorem tableOfJson?_obj (fragments : Table String) :
    tableOfJson? (.obj (fragments.toList.map fun (key, text) => (key, .str text)))
      = some fragments := by
  have hread : Json.readAll (fun (key, value) => (Json.asText? value).map fun text => (key, text))
      (fragments.toList.map fun (key, text) => (key, Json.str text)) = some fragments.toList :=
    Json.readAll_map _ (fun ((key, text) : String × String) => (key, Json.str text))
      fun _ _ => rfl
  simp only [tableOfJson?, Json.asMembers?, Option.bind_some, hread, Option.map_some,
    Sorted.ofList_toList]

theorem ofJson?_toJson (m : Mapping) : ofJson? m.toJson = some m := by
  cases m with
  | format text => rfl
  | lookup fragments =>
      have hformat : ((lookup fragments).toJson.object? ["format"]).bind
          (fun ms => Json.required? ms "format" Json.asText?) = none := rfl
      have hlookup : ((lookup fragments).toJson.object? ["valueMap"]).bind
          (fun ms => Json.required? ms "valueMap" tableOfJson?) = some fragments :=
        tableOfJson?_obj fragments
      simp only [ofJson?, hformat, hlookup, Option.map_some]

end Mapping

namespace Template

theorem mappingOfJson?_obj (mapping : Table Mapping) :
    mappingOfJson? (.obj (mapping.toList.map fun (name, m) => (name, m.toJson)))
      = some mapping := by
  have hread : Json.readAll (fun (name, value) => (Mapping.ofJson? value).map fun m => (name, m))
      (mapping.toList.map fun (name, m) => (name, m.toJson)) = some mapping.toList :=
    Json.readAll_map _ (fun ((name, m) : String × Mapping) => (name, m.toJson))
      fun (name, m) _ => by simp only [m.ofJson?_toJson, Option.map_some]
  simp only [mappingOfJson?, Json.asMembers?, Option.bind_some, hread, Option.map_some,
    Sorted.ofList_toList]

def members (t : Template) : Json.Members :=
  [("instruction", .str t.instruction)]
    ++ (if t.mapping.isEmpty then []
      else [("parameterMapping", .obj (t.mapping.toList.map fun (name, m) => (name, m.toJson)))])
    ++ [("placement", .str t.placement.name), ("compositionBehavior", .str t.behavior.name)]

theorem toJson_eq (t : Template) : t.toJson = .obj t.members := rfl

theorem keys_members (t : Template) : (t.members.map Prod.fst).Sublist fields := by
  have hmapping : ((if t.mapping.isEmpty then []
      else [("parameterMapping",
          Json.obj (t.mapping.toList.map fun (name, m) => (name, m.toJson)))]).map
        Prod.fst).Sublist ["parameterMapping"] := by
    split <;> simp
  simp only [members, List.map_append]
  exact ((List.Sublist.refl ["instruction"]).append hmapping).append
    (List.Sublist.refl ["placement", "compositionBehavior"])

theorem ofJson?_toJson (t : Template) : ofJson? t.toJson = some t := by
  have hinstruction : Json.required? t.members "instruction" Json.asText? = some t.instruction :=
    Json.required?_of_lookup (.str t.instruction) (by simp [members]) rfl
  have hmapping : Json.defaulted? t.members "parameterMapping" .empty mappingOfJson?
      = some t.mapping := by
    cases hempty : t.mapping.isEmpty with
    | true =>
        have hlookup : t.members.lookup "parameterMapping" = none := by simp [members, hempty]
        simp only [Json.defaulted?, hlookup]
        exact congrArg some (Sorted.ext (List.isEmpty_iff.mp hempty).symm)
    | false =>
        exact Json.defaulted?_of_lookup _ (by simp [members, hempty])
          (mappingOfJson?_obj t.mapping)
  have hplacement : Json.defaulted? t.members "placement" .prepend (Json.asName? Placement.ofName?)
      = some t.placement :=
    Json.defaulted?_of_lookup (.str t.placement.name)
      (by cases hempty : t.mapping.isEmpty <;> simp [members, hempty]) t.placement.ofName?_name
  have hbehavior : Json.defaulted? t.members "compositionBehavior" .accumulate
      (Json.asName? Behavior.ofName?) = some t.behavior :=
    Json.defaulted?_of_lookup (.str t.behavior.name)
      (by cases hempty : t.mapping.isEmpty <;> simp [members, hempty]) t.behavior.ofName?_name
  rw [toJson_eq, ofJson?, Json.record?_of_nodup _ (t.keys_members.nodup (by decide))]
  simp only [Option.bind_eq_bind, Option.bind_some, hinstruction, hmapping, hplacement, hbehavior]
  rfl

end Template

/-! ## Records -/

namespace CompatibilityRecord

def members (c : CompatibilityRecord) : Json.Members :=
  Json.memberList "requires" .str c.requires
    ++ Json.memberList "conflicts" .str c.conflicts
    ++ Json.member? "minStandardVersion" .str c.minStandard
    ++ Json.member? "maxStandardVersion" .str c.maxStandard
    ++ Json.memberList "models" .str c.models

theorem toJson_eq (c : CompatibilityRecord) : c.toJson = .obj c.members := rfl

theorem keys_members (c : CompatibilityRecord) : (c.members.map Prod.fst).Sublist fields := by
  simp only [members, List.map_append]
  exact ((((Json.keys_memberList _ _).append (Json.keys_memberList _ _)).append
    (Json.keys_member? _ _)).append (Json.keys_member? _ _)).append (Json.keys_memberList _ _)

theorem ofJson?_toJson (c : CompatibilityRecord) : ofJson? c.toJson = some c := by
  have hrequires : Json.defaulted? c.members "requires" [] Json.asTexts? = some c.requires :=
    Json.defaulted?_of_lookup_list .str (by simp [members, List.lookup_append]) fun _ _ => rfl
  have hconflicts : Json.defaulted? c.members "conflicts" [] Json.asTexts? = some c.conflicts :=
    Json.defaulted?_of_lookup_list .str (by simp [members, List.lookup_append]) fun _ _ => rfl
  have hmin : Json.optional? c.members "minStandardVersion" Json.asText? = some c.minStandard :=
    Json.optional?_of_lookup .str (by simp [members, List.lookup_append])
      fun _ _ => ⟨rfl, Json.noConfusion⟩
  have hmax : Json.optional? c.members "maxStandardVersion" Json.asText? = some c.maxStandard :=
    Json.optional?_of_lookup .str (by simp [members, List.lookup_append])
      fun _ _ => ⟨rfl, Json.noConfusion⟩
  have hmodels : Json.defaulted? c.members "models" [] Json.asTexts? = some c.models :=
    Json.defaulted?_of_lookup_list .str (by simp [members, List.lookup_append]) fun _ _ => rfl
  rw [toJson_eq, ofJson?, Json.record?_of_nodup _ (c.keys_members.nodup (by decide))]
  simp only [Option.bind_eq_bind, Option.bind_some, hrequires, hconflicts, hmin, hmax, hmodels]
  rfl

end CompatibilityRecord

namespace DefinitionRecord

def members (r : DefinitionRecord) : Json.Members :=
  [("decoratorName", .str r.name), ("version", .str r.version), ("category", .str r.category)]
    ++ Json.member? "description" .str r.description
    ++ [("parameters", .arr (r.parameters.map Schema.toJson)),
        ("transformationTemplate", r.template.toJson),
        ("compatibility", r.compatibility.toJson)]

theorem toJson_eq (r : DefinitionRecord) : r.toJson = .obj r.members := rfl

theorem keys_members (r : DefinitionRecord) : (r.members.map Prod.fst).Sublist fields := by
  simp only [members, List.map_append]
  exact ((List.Sublist.refl ["decoratorName", "version", "category"]).append
    (Json.keys_member? _ _)).append
    (List.Sublist.refl ["parameters", "transformationTemplate", "compatibility"])

/-- **A record reads back from its document.** -/
theorem ofJson?_toJson {r : DefinitionRecord}
    (hfinite : ∀ s ∈ r.parameters, ∀ b ∈ s.shape.bounds, b.isFinite = true)
    (hdefaults : ∀ s ∈ r.parameters, ∀ j, s.default = some j → j.distinct = j ∧ j ≠ .null) :
    ofJson? r.toJson = some r := by
  have hname : Json.required? r.members "decoratorName" Json.asText? = some r.name :=
    Json.required?_of_lookup (.str r.name) (by simp [members]) rfl
  have hversion : Json.required? r.members "version" Json.asText? = some r.version :=
    Json.required?_of_lookup (.str r.version) (by simp [members]) rfl
  have hcategory : Json.defaulted? r.members "category" "general" Json.asText? = some r.category :=
    Json.defaulted?_of_lookup (.str r.category) (by simp [members]) rfl
  have hdescription : Json.optional? r.members "description" Json.asText? = some r.description :=
    Json.optional?_of_lookup .str (by simp [members, List.lookup_append])
      fun _ _ => ⟨rfl, Json.noConfusion⟩
  have hparameters : Json.defaulted? r.members "parameters" [] (Json.asListOf? Schema.ofJson?)
      = some r.parameters :=
    Json.defaulted?_of_lookup (.arr (r.parameters.map Schema.toJson))
      (by simp [members, List.lookup_append])
      (Json.asListOf?_arr _ fun s hs => Schema.ofJson?_toJson (hfinite s hs) (hdefaults s hs))
  have htemplate : Json.required? r.members "transformationTemplate" Template.ofJson?
      = some r.template :=
    Json.required?_of_lookup r.template.toJson (by simp [members, List.lookup_append])
      r.template.ofJson?_toJson
  have hcompatibility : Json.defaulted? r.members "compatibility" {} CompatibilityRecord.ofJson?
      = some r.compatibility :=
    Json.defaulted?_of_lookup r.compatibility.toJson (by simp [members, List.lookup_append])
      r.compatibility.ofJson?_toJson
  rw [toJson_eq, ofJson?, Json.record?_of_nodup _ (r.keys_members.nodup (by decide))]
  simp only [Option.bind_eq_bind, Option.bind_some, hname, hversion, hcategory, hdescription,
    hparameters, htemplate, hcompatibility]
  rfl

end DefinitionRecord

end Decorate
