import Decorate.Sorted
import Mathlib.Data.List.Forall2
import Mathlib.Data.List.Nodup

/-!
# What a sorted collection holds

A collection is known by its elements: `find?_eq_some_iff` says that
looking up a key finds the one element with that key, and
`mem_insert`/`mem_erase` say which elements a change leaves. The look-up
laws of tables (`get?_set`, `get?_erase`, `get?_ofList`) follow from
these three.

`InStep` relates two lists of entries, or two tables, with the same keys
in the same order and related values under each.
-/

namespace Decorate

/-! ## Insertion -/

section

variable {α : Type} {key : α → String}

theorem self_mem_insertByKey (x : α) : ∀ entries : List α, x ∈ insertByKey key x entries
  | [] => List.mem_singleton.mpr rfl
  | y :: ys => by
      unfold insertByKey
      split
      · exact List.mem_cons_self
      · split
        · exact List.mem_cons_self
        · exact List.mem_cons_of_mem _ (self_mem_insertByKey x ys)

/-- Elements with another key stay. -/
theorem mem_insertByKey_of_mem {x a : α} (hne : key a ≠ key x) :
    ∀ {entries : List α}, a ∈ entries → a ∈ insertByKey key x entries
  | y :: ys, h => by
      unfold insertByKey
      split
      · exact List.mem_cons_of_mem _ h
      · split
        · rename_i heq
          rcases List.mem_cons.mp h with rfl | h
          · exact absurd heq.symm hne
          · exact List.mem_cons_of_mem _ h
        · rcases List.mem_cons.mp h with rfl | h
          · exact List.mem_cons_self
          · exact List.mem_cons_of_mem _ (mem_insertByKey_of_mem hne h)

/-- Keys occur once. -/
theorem Ascending.eq_of_key_eq :
    ∀ {entries : List α}, Ascending key entries → ∀ {a b : α}, a ∈ entries → b ∈ entries →
      key a = key b → a = b
  | y :: ys, h, a, b, ha, hb, hab => by
      obtain ⟨hy, hys⟩ := List.pairwise_cons.mp h
      rcases List.mem_cons.mp ha with rfl | ha' <;> rcases List.mem_cons.mp hb with rfl | hb'
      · rfl
      · exact absurd (hab ▸ hy b hb') (String.lt_irrefl _)
      · exact absurd (hab.symm ▸ hy a ha') (String.lt_irrefl _)
      · exact Ascending.eq_of_key_eq hys ha' hb' hab

theorem mem_insertByKey {x a : α} {entries : List α} (h : Ascending key entries) :
    a ∈ insertByKey key x entries ↔ a = x ∨ (a ∈ entries ∧ key a ≠ key x) := by
  constructor
  · intro ha
    by_cases hk : key a = key x
    · exact Or.inl (h.insertByKey.eq_of_key_eq ha (self_mem_insertByKey x entries) hk)
    · rcases mem_of_mem_insertByKey ha with rfl | ha
      · exact absurd rfl hk
      · exact Or.inr ⟨ha, hk⟩
  · rintro (rfl | ⟨ha, hk⟩)
    · exact self_mem_insertByKey a entries
    · exact mem_insertByKey_of_mem hk ha

end

/-- Lists that are related element by element stay so when related elements with one key
are put in their places. -/
theorem forall₂_insertByKey {α β : Type} {keyA : α → String} {keyB : β → String}
    {R : α → β → Prop} (hkey : ∀ a b, R a b → keyA a = keyB b) {x : α} {y : β} (hxy : R x y)
    {xs : List α} {ys : List β} (h : List.Forall₂ R xs ys) :
    List.Forall₂ R (insertByKey keyA x xs) (insertByKey keyB y ys) := by
  induction h with
  | nil => exact .cons hxy .nil
  | @cons a b as bs hab rest ih =>
      unfold insertByKey
      rw [hkey x y hxy, hkey a b hab]
      split
      · exact .cons hxy (.cons hab rest)
      · split
        · exact .cons hxy rest
        · exact .cons hab ih

namespace Sorted

variable {α : Type} {key : α → String}

/-! ## Elements -/

theorem find?_eq_some_iff {s : Sorted key} {k : String} {x : α} :
    s.find? k = some x ↔ x ∈ s.toList ∧ key x = k := by
  constructor
  · intro h
    exact ⟨List.mem_of_find?_eq_some h, by simpa using List.find?_some h⟩
  · rintro ⟨hx, rfl⟩
    cases h : s.find? (key x) with
    | none => exact absurd (List.find?_eq_none.mp h x hx) (by simp)
    | some y =>
        have hy : key y = key x := by simpa using List.find?_some h
        rw [s.ascending.eq_of_key_eq (List.mem_of_find?_eq_some h) hx hy]

theorem contains_iff {s : Sorted key} {k : String} :
    s.contains k = true ↔ ∃ x ∈ s.toList, key x = k := by
  simp [contains]

theorem contains_eq_isSome (s : Sorted key) (k : String) : s.contains k = (s.find? k).isSome := by
  rw [Bool.eq_iff_iff, contains_iff, Option.isSome_iff_exists]
  exact exists_congr fun x => find?_eq_some_iff.symm

theorem mem_insert {s : Sorted key} {x a : α} :
    a ∈ (s.insert x).toList ↔ a = x ∨ (a ∈ s.toList ∧ key a ≠ key x) :=
  mem_insertByKey s.ascending

theorem mem_erase {s : Sorted key} {k : String} {a : α} :
    a ∈ (s.erase k).toList ↔ a ∈ s.toList ∧ key a ≠ k := by
  simp [erase]

/-! ## Looking up after a change -/

theorem find?_insert (s : Sorted key) (x : α) (k : String) :
    (s.insert x).find? k = if key x = k then some x else s.find? k := by
  refine Option.ext fun y => ?_
  rw [find?_eq_some_iff, mem_insert]
  split
  · rename_i hx
    rw [Option.some.injEq]
    constructor
    · rintro ⟨rfl | ⟨-, hne⟩, hy⟩
      · rfl
      · exact absurd (hy.trans hx.symm) hne
    · rintro rfl
      exact ⟨Or.inl rfl, hx⟩
  · rename_i hx
    rw [find?_eq_some_iff]
    constructor
    · rintro ⟨rfl | ⟨hy, -⟩, hk⟩
      · exact absurd hk hx
      · exact ⟨hy, hk⟩
    · rintro ⟨hy, rfl⟩
      exact ⟨Or.inr ⟨hy, fun h => hx h.symm⟩, rfl⟩

theorem insertByKey_of_forall_lt {x : α} :
    ∀ {entries : List α}, (∀ y ∈ entries, key y < key x) →
      insertByKey key x entries = entries ++ [x]
  | [], _ => rfl
  | y :: ys, h => by
      have hy := h y List.mem_cons_self
      have hne : key x ≠ key y := fun heq => String.lt_irrefl _ (heq ▸ hy)
      have hnlt : ¬ key x < key y := fun hlt => String.lt_irrefl _ (String.lt_trans hlt hy)
      rw [insertByKey, if_neg hnlt, if_neg hne,
        insertByKey_of_forall_lt fun z hz => h z (List.mem_cons_of_mem _ hz), List.cons_append]

/-- Elements in ascending order are filed one behind the other. -/
theorem toList_foldl_insert :
    ∀ (rest : List α) (s : Sorted key), Ascending key (s.toList ++ rest) →
      (rest.foldl (fun s x => s.insert x) s).toList = s.toList ++ rest
  | [], s, _ => (List.append_nil _).symm
  | x :: rest, s, h => by
      have hinsert : (s.insert x).toList = s.toList ++ [x] :=
        insertByKey_of_forall_lt fun y hy =>
          (List.pairwise_append.mp h).2.2 y hy x List.mem_cons_self
      rw [List.append_cons, ← hinsert] at h
      rw [List.foldl_cons, toList_foldl_insert rest _ h, hinsert, List.append_assoc,
        List.singleton_append]

/-- A collection is filed again from the list of its elements. -/
theorem ofList_toList (s : Sorted key) : ofList s.toList = s :=
  ext (toList_foldl_insert s.toList empty s.ascending)

theorem find?_erase (s : Sorted key) (k k' : String) :
    (s.erase k).find? k' = if k = k' then none else s.find? k' := by
  refine Option.ext fun y => ?_
  rw [find?_eq_some_iff, mem_erase]
  split
  · rename_i hk
    simp only [reduceCtorEq, iff_false, not_and]
    rintro ⟨-, hne⟩ rfl
    exact hne hk.symm
  · rename_i hk
    rw [find?_eq_some_iff]
    constructor
    · rintro ⟨⟨hy, -⟩, hk'⟩
      exact ⟨hy, hk'⟩
    · rintro ⟨hy, rfl⟩
      exact ⟨⟨hy, fun h => hk h.symm⟩, rfl⟩

end Sorted

/-! ## Tables -/

namespace Table

variable {α : Type}

@[simp] theorem get?_empty (k : String) : Table.get? (Sorted.empty : Table α) k = none := rfl

theorem get?_set (t : Table α) (k : String) (v : α) (k' : String) :
    (t.set k v).get? k' = if k = k' then some v else t.get? k' := by
  unfold get? set
  rw [Sorted.find?_insert]
  split <;> rfl

theorem get?_erase (t : Table α) (k k' : String) :
    Table.get? (t.erase k) k' = if k = k' then none else t.get? k' := by
  unfold get?
  rw [Sorted.find?_erase]
  split <;> rfl

theorem get?_eq_some_iff {t : Table α} {k : String} {v : α} :
    t.get? k = some v ↔ (k, v) ∈ t.toList := by
  unfold get?
  rw [Option.map_eq_some_iff]
  constructor
  · rintro ⟨⟨k', v'⟩, hfind, rfl⟩
    obtain ⟨hmem, rfl⟩ := Sorted.find?_eq_some_iff.mp hfind
    exact hmem
  · intro hmem
    exact ⟨(k, v), Sorted.find?_eq_some_iff.mpr ⟨hmem, rfl⟩, rfl⟩

theorem contains_eq_isSome (t : Table α) (k : String) :
    Sorted.contains t k = (t.get? k).isSome := by
  rw [Sorted.contains_eq_isSome, get?, Option.isSome_map]

theorem mem_keys {t : Table α} {k : String} : k ∈ t.keys ↔ ∃ v, t.get? k = some v := by
  simp only [keys, List.mem_map, get?_eq_some_iff]
  constructor
  · rintro ⟨⟨k', v⟩, hmem, rfl⟩
    exact ⟨v, hmem⟩
  · rintro ⟨v, hmem⟩
    exact ⟨(k, v), hmem, rfl⟩

theorem keys_ascending (t : Table α) : t.keys.Pairwise (· < ·) :=
  List.pairwise_map.mpr t.ascending

/-- Filing entries with distinct keys: each is found under its key, and what was there
before under the others. -/
theorem get?_foldl_insert {k : String} :
    ∀ {entries : List (String × α)} {t : Table α}, (entries.map Prod.fst).Nodup →
      Table.get? (entries.foldl (fun t e => Sorted.insert e t) t) k
        = (entries.lookup k).or (t.get? k)
  | [], t, _ => rfl
  | (k₁, v) :: rest, t, h => by
      obtain ⟨hk₁, hrest⟩ := List.nodup_cons.mp h
      rw [List.foldl_cons, get?_foldl_insert hrest, List.lookup_cons]
      have hset := get?_set t k₁ v k
      unfold set at hset
      rw [hset]
      by_cases hk : k₁ = k
      · subst hk
        have hnone : rest.lookup k₁ = none :=
          List.lookup_eq_none_iff.mpr fun e he => by
            simpa using fun heq => hk₁ (List.mem_map.mpr ⟨e, he, heq.symm⟩)
        simp [hnone]
      · simp [hk, beq_false_of_ne (Ne.symm hk)]

/-- Where keys are distinct, what is found under a key is what is listed under it. -/
theorem lookup_eq_some_iff_mem {k : String} {v : α} :
    ∀ {entries : List (String × α)}, (entries.map Prod.fst).Nodup →
      (entries.lookup k = some v ↔ (k, v) ∈ entries)
  | [], _ => by simp
  | (k₁, v₁) :: rest, h => by
      obtain ⟨hk₁, hrest⟩ := List.nodup_cons.mp h
      rw [List.lookup_cons, List.mem_cons, Prod.mk.injEq]
      cases hk : k == k₁ with
      | true =>
          obtain rfl := eq_of_beq hk
          have hnot : (k, v) ∉ rest := fun hmem => hk₁ (List.mem_map.mpr ⟨_, hmem, rfl⟩)
          simp [hnot, eq_comm]
      | false =>
          have hne : k ≠ k₁ := ne_of_beq_false hk
          simp [hne, lookup_eq_some_iff_mem hrest]

theorem lookup_perm {entries entries' : List (String × α)} (hperm : entries'.Perm entries)
    (h : (entries.map Prod.fst).Nodup) (k : String) : entries'.lookup k = entries.lookup k := by
  have h' : (entries'.map Prod.fst).Nodup := (hperm.map Prod.fst).nodup_iff.mpr h
  refine Option.ext fun v => ?_
  rw [lookup_eq_some_iff_mem h', lookup_eq_some_iff_mem h, hperm.mem_iff]

/-- Where keys are distinct, striking out entries by their values strikes out what is found. -/
theorem lookup_filter {entries : List (String × α)} (h : (entries.map Prod.fst).Nodup)
    (p : α → Bool) (k : String) :
    (entries.filter fun e => p e.2).lookup k = (entries.lookup k).filter p := by
  have hkept : ((entries.filter fun e => p e.2).map Prod.fst).Nodup :=
    (List.filter_sublist.map Prod.fst).nodup h
  refine Option.ext fun v => ?_
  rw [lookup_eq_some_iff_mem hkept, List.mem_filter, Option.filter_eq_some_iff,
    lookup_eq_some_iff_mem h]

/-- A table made of entries with distinct keys holds just these entries. -/
theorem get?_ofList {entries : List (String × α)} (h : (entries.map Prod.fst).Nodup) (k : String) :
    Table.get? (Sorted.ofList entries) k = entries.lookup k := by
  rw [Sorted.ofList, get?_foldl_insert h, get?_empty, Option.or_none]

end Table

/-! ## Entries in step -/

theorem exists_mem_of_forall₂ {α β : Type} {R : α → β → Prop} {xs : List α} {ys : List β}
    (h : List.Forall₂ R xs ys) {x : α} (hx : x ∈ xs) : ∃ y ∈ ys, R x y := by
  induction h with
  | nil => cases hx
  | cons hxy _ ih =>
      rcases List.mem_cons.mp hx with rfl | hx
      · exact ⟨_, List.mem_cons_self, hxy⟩
      · obtain ⟨y, hy, h⟩ := ih hx
        exact ⟨y, List.mem_cons_of_mem _ hy, h⟩

/-- The same keys in the same order, with related values under each. -/
def InStep {α β : Type} (R : α → β → Prop) (xs : List (String × α)) (ys : List (String × β)) :
    Prop :=
  List.Forall₂ (fun x y => x.1 = y.1 ∧ R x.2 y.2) xs ys

namespace InStep

variable {α β : Type} {R : α → β → Prop}

theorem lookup (k : String) :
    ∀ {xs : List (String × α)} {ys : List (String × β)}, InStep R xs ys →
      Option.Rel R (xs.lookup k) (ys.lookup k)
  | _, _, .nil => .none
  | (k₁, x) :: _, (k₂, y) :: _, .cons h rest => by
      obtain ⟨hk, hxy⟩ := h
      obtain rfl : k₁ = k₂ := hk
      rw [List.lookup_cons, List.lookup_cons]
      cases k == k₁ with
      | true => exact .some hxy
      | false => exact lookup k rest

theorem insert {x : String × α} {y : String × β} (hxy : x.1 = y.1 ∧ R x.2 y.2) {s : Table α}
    {t : Table β} (hst : InStep R s.toList t.toList) :
    InStep R (Sorted.insert x s).toList (Sorted.insert y t).toList :=
  forall₂_insertByKey (R := fun (x : String × α) (y : String × β) => x.1 = y.1 ∧ R x.2 y.2)
    (fun _ _ => And.left) hxy hst

theorem foldl_insert {xs : List (String × α)} {ys : List (String × β)} (h : InStep R xs ys)
    {s : Table α} {t : Table β} (hst : InStep R s.toList t.toList) :
    InStep R (xs.foldl (fun s x => Sorted.insert x s) s).toList
      (ys.foldl (fun t y => Sorted.insert y t) t).toList := by
  induction h generalizing s t with
  | nil => exact hst
  | cons hxy _ ih => exact ih (insert hxy hst)

/-- Tables that are filed in step stay in step. -/
theorem ofList {xs : List (String × α)} {ys : List (String × β)} (h : InStep R xs ys) :
    InStep R (Sorted.ofList xs : Table α).toList (Sorted.ofList ys : Table β).toList :=
  foldl_insert h .nil

end InStep

end Decorate
