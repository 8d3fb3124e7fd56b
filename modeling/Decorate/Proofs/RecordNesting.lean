import Decorate.Definition.Basic
import Decorate.Proofs.DocumentText
import Decorate.Proofs.RecordForm

/-!
# The nesting of records

A definition that was read from a text is not written deeper than that
text was (`Definition.nesting_le_of_ofText`). What is written for a schema
nests no deeper than the document it was read from: items and defaults
are the only parts that can be deep, and both are written where they
stood. The other parts of a record are at most five deep.
-/

namespace Decorate

namespace Json

/-! ## Bounds -/

theorem nestingMembers_le_iff {ms : Members} {n : Nat} :
    nestingMembers ms ≤ n ↔ ∀ m ∈ ms, m.2.nesting ≤ n := by
  induction ms with
  | nil => simp [nestingMembers]
  | cons m rest ih =>
      obtain ⟨key, value⟩ := m
      simp only [nestingMembers, Nat.max_le, List.forall_mem_cons, ih]

theorem nesting_le_of_lookup {ms : Members} {field : String} {j : Json}
    (h : ms.lookup field = some j) : j.nesting ≤ nestingMembers ms := by
  induction ms with
  | nil => cases h
  | cons m rest ih =>
      obtain ⟨key, value⟩ := m
      rw [List.lookup_cons] at h
      split at h
      · cases h
        exact Nat.le_max_left _ _
      · exact Nat.le_trans (ih h) (Nat.le_max_right _ _)

theorem nestingMembers_append (ms ns : Members) :
    nestingMembers (ms ++ ns) = max (nestingMembers ms) (nestingMembers ns) := by
  induction ms with
  | nil => simp [nestingMembers]
  | cons m rest ih =>
      obtain ⟨key, value⟩ := m
      simp [nestingMembers, ih, Nat.max_assoc]

/-! ## Repeated members -/

theorem nestingMembers_put_le (key : String) (value : Json) (ms : Members) :
    nestingMembers (put key value ms) ≤ max value.nesting (nestingMembers ms) := by
  induction ms with
  | nil => simp [put, nestingMembers]
  | cons m rest ih =>
      obtain ⟨k, v⟩ := m
      rw [put]
      split <;> simp only [nestingMembers] <;> omega

mutual
theorem nesting_distinct_le : (j : Json) → j.distinct.nesting ≤ j.nesting
  | null | bool _ | num _ | str _ => Nat.le_refl _
  | arr items => Nat.succ_le_succ (nestingItems_distinctItems_le items)
  | obj ms => Nat.succ_le_succ (by
      simpa [nestingMembers] using nestingMembers_distinctMembers_le ms [])

theorem nestingItems_distinctItems_le :
    (items : List Json) → nestingItems (distinctItems items) ≤ nestingItems items
  | [] => Nat.le_refl _
  | item :: rest => by
      have hitem := nesting_distinct_le item
      have hrest := nestingItems_distinctItems_le rest
      simp only [distinctItems, nestingItems]
      omega

theorem nestingMembers_distinctMembers_le : (ms : List (String × Json)) → (done : Members) →
    nestingMembers (distinctMembers ms done) ≤ max (nestingMembers ms) (nestingMembers done)
  | [], done => Nat.le_max_right _ _
  | (key, value) :: rest, done => by
      have hvalue := nesting_distinct_le value
      have hput := nestingMembers_put_le key value.distinct done
      have hrest := nestingMembers_distinctMembers_le rest (put key value.distinct done)
      simp only [distinctMembers, nestingMembers]
      omega
end

/-! ## Members -/

theorem eq_of_asItems? {j : Json} {items : List Json} (h : j.asItems? = some items) :
    j = arr items := by
  cases j <;> cases h
  rfl

theorem nestingMembers_zip_le :
    ∀ (fields : List String) (items : List Json),
      nestingMembers (fields.zip items) ≤ nestingItems items
  | [], _ => Nat.zero_le _
  | _ :: _, [] => Nat.le_refl _
  | field :: fields, item :: items => by
      have hrest := nestingMembers_zip_le fields items
      simp only [List.zip_cons_cons, nestingMembers, nestingItems]
      omega

theorem eq_of_object? {fields : List String} {j : Json} {ms : Members}
    (h : j.object? fields = some ms) : j = obj ms := by
  unfold object? at h
  split at h
  · split at h <;> cases h
    rfl
  · cases h

theorem nestingMembers_lt_of_record? {fields : List String} {j : Json} {ms : Members}
    (h : j.record? fields = some ms) : nestingMembers ms < j.nesting := by
  unfold record? at h
  split at h
  · split at h <;> cases h
    exact Nat.lt_succ_of_le (nestingMembers_zip_le _ _)
  · rw [eq_of_object? h]
    exact Nat.lt_succ_self _

section

variable {α : Type} {write : α → Json}

theorem nestingMembers_member? (hwrite : ∀ x, (write x).nesting = 0) (field : String)
    (value : Option α) : nestingMembers (member? field write value) = 0 := by
  cases value <;> simp [member?, nestingMembers, hwrite]

theorem nestingItems_map (hwrite : ∀ x, (write x).nesting = 0) (values : List α) :
    nestingItems (values.map write) = 0 := by
  induction values with
  | nil => rfl
  | cons x rest ih => simp [nestingItems, hwrite, ih]

theorem nestingMembers_memberList_le (hwrite : ∀ x, (write x).nesting = 0) (field : String)
    (values : List α) : nestingMembers (memberList field write values) ≤ 1 := by
  cases values <;>
    simp [memberList, nestingMembers, nesting, nestingItems, hwrite, nestingItems_map]

end

end Json

/-! ## Schemas -/

theorem Limits.nestingMembers_le {ms : Json.Members} {l : Limits} (h : ofMembers? ms = some l) :
    Json.nestingMembers l.toMembers ≤ Json.nestingMembers ms := by
  have hnum (x : Double) : (Json.ofDouble x).nesting = 0 := by cases x <;> rfl
  have hcount (n : UInt64) : (Json.ofCount n).nesting = 0 := rfl
  have hstr (s : String) : (Json.str s).nesting = 0 := rfl
  simp only [ofMembers?, Option.bind_eq_bind, Option.bind_eq_some_iff] at h
  obtain ⟨allowed, hread, min, -, max, -, minLength, -, maxLength, -, pattern, -, heq⟩ := h
  cases heq
  have hallowed : Json.nestingMembers (Json.memberList "enum" .str allowed)
      ≤ Json.nestingMembers ms := by
    unfold Json.defaulted? at hread
    split at hread
    · cases hread
      exact Nat.zero_le _
    · rename_i j hj
      -- a list of values that is not empty was written as an array
      obtain ⟨items, hitems, -⟩ := Option.bind_eq_some_iff.mp hread
      obtain rfl : j = .arr items := Json.eq_of_asItems? hitems
      exact Nat.le_trans (Json.nestingMembers_memberList_le hstr _ _)
        (Nat.le_trans (Nat.succ_le_succ (Nat.zero_le _)) (Json.nesting_le_of_lookup hj))
  simpa [toMembers, Json.nestingMembers_append, Json.nestingMembers_member?, hnum, hcount, hstr]
    using hallowed

namespace Shape

/-- The members of a shape nest no deeper than those it was read from, if this is so of
its items. -/
theorem nestingMembers_ofParts_le {ms : Json.Members} (kind : Kind) {limits : Limits}
    {items? : Option Shape} (hlimits : Limits.ofMembers? ms = some limits)
    (hitems : ∀ items, items? = some items → items.toJson.nesting ≤ Json.nestingMembers ms) :
    Json.nestingMembers (ofParts kind limits items?).toMembers ≤ Json.nestingMembers ms := by
  have hle := Limits.nestingMembers_le hlimits
  cases items? with
  | none => exact hle
  | some items =>
      have h := hitems items rfl
      simp only [toJson] at h
      simp only [ofParts, toMembers, Json.nestingMembers_append, Json.nestingMembers, Nat.max_le]
      exact ⟨hle, h, Nat.zero_le _⟩

mutual
theorem nesting_le_of_ofJson? : (j : Json) → {s : Shape} → ofJson? j = some s →
    s.toJson.nesting ≤ j.nesting
  | .obj ms, s, h => by
      rw [ofJson?] at h
      split at h
      · cases h
      · split at h
        · rename_i kind limits items hkind hlimits hitems
          cases h
          have hmembers := nestingMembers_ofParts_le kind hlimits fun inner hinner =>
            nesting_le_of_itemsOf? ms (hitems.trans (congrArg some hinner))
          simpa [toJson, Json.nesting, Json.nestingMembers] using hmembers
        · cases h
  | .null, _, h | .bool _, _, h | .num _, _, h | .str _, _, h | .arr _, _, h => by cases h

theorem nesting_le_of_itemsOf? : (ms : List (String × Json)) → {s : Shape} →
    itemsOf? ms = some (some s) → s.toJson.nesting ≤ Json.nestingMembers ms
  | [], _, h => by cases h
  | (key, value) :: rest, s, h => by
      rw [itemsOf?.eq_def] at h
      simp only at h
      split at h
      · split at h
        · cases h
        · obtain ⟨inner, hinner, heq⟩ := Option.map_eq_some_iff.mp h
          cases heq
          exact Nat.le_trans (nesting_le_of_ofJson? value hinner) (Nat.le_max_left _ _)
      · exact Nat.le_trans (nesting_le_of_itemsOf? rest h) (Nat.le_max_right _ _)
end

end Shape

namespace Schema

/-- A schema is not written deeper than it was read. -/
theorem nesting_le_of_ofJson? {j : Json} {s : Schema} (h : ofJson? j = some s) :
    s.toJson.nesting ≤ j.nesting := by
  simp only [ofJson?, Option.bind_eq_bind, Option.bind_eq_some_iff] at h
  obtain ⟨ms, hms, name, -, kind, -, description, -, default, hread, required, -, limits, hlimits,
    items, hitems, heq⟩ := h
  cases heq
  obtain rfl := Json.eq_of_object? hms
  have hstr (s : String) : (Json.str s).nesting = 0 := rfl
  have hdefault : Json.nestingMembers (Json.member? "default" id default)
      ≤ Json.nestingMembers ms := by
    unfold Json.optional? at hread
    split at hread
    · cases hread
      exact Nat.zero_le _
    · cases hread
      exact Nat.zero_le _
    · rename_i j _ hj
      cases hread
      simp only [Json.member?, id, Json.nestingMembers, Nat.max_zero]
      exact Nat.le_trans (Json.nesting_distinct_le j) (Json.nesting_le_of_lookup hj)
  have hshape := Shape.nestingMembers_ofParts_le kind hlimits fun inner hinner =>
    Shape.nesting_le_of_itemsOf? ms (hitems.trans (congrArg some hinner))
  have hmembers := Nat.max_le.mpr ⟨hdefault, hshape⟩
  simpa [toJson_eq, head, Json.nesting, Json.nestingMembers_append, Json.nestingMembers,
    Json.nestingMembers_member? hstr] using hmembers

theorem nestingItems_le_of_readAll : ∀ {items : List Json} {schemas : List Schema},
    Json.readAll ofJson? items = some schemas →
      Json.nestingItems (schemas.map toJson) ≤ Json.nestingItems items
  | [], _, h => by
      cases h
      exact Nat.le_refl _
  | item :: rest, schemas, h => by
      rw [Json.readAll] at h
      split at h
      · rename_i s more hs hmore
        cases h
        have hle := nesting_le_of_ofJson? hs
        have hrest := nestingItems_le_of_readAll hmore
        simp only [List.map_cons, Json.nestingItems]
        omega
      · cases h

end Schema

/-! ## Definitions -/

theorem Mapping.nesting_le (m : Mapping) : m.toJson.nesting ≤ 2 := by
  cases m with
  | format text => simp [toJson, Json.nesting, Json.nestingMembers]
  | lookup fragments =>
      have htexts : Json.nestingMembers (fragments.toList.map fun f => (f.1, .str f.2)) ≤ 0 :=
        Json.nestingMembers_le_iff.mpr fun m hm => by
          obtain ⟨_, -, rfl⟩ := List.mem_map.mp hm
          exact Nat.le_refl _
      simp only [toJson, Json.nesting, Json.nestingMembers]
      omega

theorem Template.nesting_le (t : Template) : t.toJson.nesting ≤ 4 := by
  have hmapping : Json.nestingMembers (t.mapping.toList.map fun m => (m.1, m.2.toJson)) ≤ 2 :=
    Json.nestingMembers_le_iff.mpr fun m hm => by
      obtain ⟨⟨name, mapping⟩, -, rfl⟩ := List.mem_map.mp hm
      exact mapping.nesting_le
  unfold toJson
  split <;>
    simp only [Json.nesting, Json.nestingMembers_append, Json.nestingMembers] <;> omega

theorem CompatibilityRecord.nesting_le (c : CompatibilityRecord) : c.toJson.nesting ≤ 2 := by
  have hstr (s : String) : (Json.str s).nesting = 0 := rfl
  simp only [toJson_eq, members, Json.nesting, Json.nestingMembers_append,
    Json.nestingMembers_member? hstr, Nat.max_zero]
  have hrequires := Json.nestingMembers_memberList_le hstr "requires" c.requires
  have hconflicts := Json.nestingMembers_memberList_le hstr "conflicts" c.conflicts
  have hmodels := Json.nestingMembers_memberList_le hstr "models" c.models
  omega

namespace DefinitionRecord

theorem nestingItems_parameters_le {j : Json} {r : DefinitionRecord} (h : ofJson? j = some r) :
    Json.nestingItems (r.parameters.map Schema.toJson) + 2 ≤ max j.nesting 2 := by
  simp only [ofJson?, Option.bind_eq_bind, Option.bind_eq_some_iff] at h
  obtain ⟨ms, hms, name, -, version, -, category, -, description, -, parameters, hread, template, -,
    compatibility, -, heq⟩ := h
  cases heq
  have hrecord := Json.nestingMembers_lt_of_record? hms
  unfold Json.defaulted? at hread
  split at hread
  · cases hread
    exact Nat.le_max_right _ _
  · rename_i k hk
    obtain ⟨items, hitems, hall⟩ := Option.bind_eq_some_iff.mp hread
    obtain rfl : k = .arr items := Json.eq_of_asItems? hitems
    have harray := Json.nesting_le_of_lookup hk
    have hschemas := Schema.nestingItems_le_of_readAll hall
    simp only [Json.nesting] at harray ⊢
    omega

end DefinitionRecord

namespace Definition

/-- How deep the record of a definition is nested. -/
def nesting (d : Definition) : Nat := d.toRecord.toJson.nesting

theorem nesting_le (d : Definition) :
    d.nesting ≤ max (Json.nestingItems (d.parameters.map Schema.toJson) + 2) 5 := by
  have hstr (s : String) : (Json.str s).nesting = 0 := rfl
  have htemplate := d.template.nesting_le
  have hcompatibility := d.compatibility.toRecord.nesting_le
  simp only [nesting, toRecord, DefinitionRecord.toJson_eq, DefinitionRecord.members, Json.nesting,
    Json.nestingMembers_append, Json.nestingMembers_member? hstr, Json.nestingMembers]
  omega

theorem parameters_of_ofRecord {r : DefinitionRecord} {d : Definition} (h : ofRecord r = .ok d) :
    d.parameters = r.parameters := by
  unfold ofRecord at h
  split at h
  · cases h
  · split at h
    · cases h
    · split at h
      · cases h
      · split at h
        · cases h
        · split at h
          · cases h
          · cases h
            rfl

/-- **What is read from a text is not nested too deep to be read again.** -/
theorem nesting_le_of_ofText {text : String} {d : Definition} (h : ofText text = .ok d) :
    d.nesting ≤ Json.maxDepth := by
  unfold ofText at h
  split at h
  · rename_i j hj
    unfold ofJson at h
    split at h
    · rename_i r hr
      have hdepth := Json.nesting_le_of_read? hj
      have hparameters := DefinitionRecord.nestingItems_parameters_le hr
      have hd := d.nesting_le
      rw [parameters_of_ofRecord h] at hd
      simp only [Json.maxDepth] at hdepth ⊢
      omega
    · cases h
  · cases h

end Definition

end Decorate
