/-!
# Sorted collections

Finite collections kept in ascending order of a text key, each key
once: `Sorted key` for elements that carry their key, `Table` for
values filed under a key, `TextSet` for plain texts. Two collections
with the same elements are equal, since the order leaves no choice.

Texts are ordered by code point.
-/

namespace Decorate

/-! ## Lists in ascending order -/

section

variable {α : Type}

/-- Strictly ascending keys. -/
def Ascending (key : α → String) (entries : List α) : Prop :=
  entries.Pairwise fun a b => key a < key b

/-- Puts an element in its place. One with the same key gives way. -/
def insertByKey (key : α → String) (x : α) : List α → List α
  | [] => [x]
  | y :: ys =>
    if key x < key y then x :: y :: ys
    else if key x = key y then x :: ys
    else y :: insertByKey key x ys

theorem mem_of_mem_insertByKey {key : α → String} {x a : α} :
    ∀ {entries : List α}, a ∈ insertByKey key x entries → a = x ∨ a ∈ entries
  | [], h => by simpa [insertByKey] using h
  | y :: ys, h => by
    unfold insertByKey at h
    split at h
    · simpa using h
    · split at h
      · rcases List.mem_cons.mp h with h | h
        · exact .inl h
        · exact .inr (List.mem_cons_of_mem _ h)
      · rcases List.mem_cons.mp h with h | h
        · exact .inr (h ▸ List.mem_cons_self)
        · exact (mem_of_mem_insertByKey h).imp id (List.mem_cons_of_mem _)

theorem Ascending.insertByKey {key : α → String} {x : α} :
    ∀ {entries : List α}, Ascending key entries → Ascending key (insertByKey key x entries)
  | [], _ => List.pairwise_singleton _ _
  | y :: ys, h => by
    have ⟨hy, hys⟩ := List.pairwise_cons.mp h
    unfold Decorate.insertByKey
    split
    · rename_i lt
      refine List.pairwise_cons.mpr ⟨fun a ha => ?_, h⟩
      rcases List.mem_cons.mp ha with rfl | ha
      · exact lt
      · exact String.lt_trans lt (hy a ha)
    · split
      · rename_i eq
        exact List.pairwise_cons.mpr ⟨fun a ha => eq ▸ hy a ha, hys⟩
      · rename_i notLt ne
        refine List.pairwise_cons.mpr ⟨fun a ha => ?_, Ascending.insertByKey hys⟩
        rcases mem_of_mem_insertByKey ha with rfl | ha
        · exact Std.lt_of_le_of_ne (String.not_lt.mp notLt) (Ne.symm ne)
        · exact hy a ha

end

/-! ## Collections -/

structure Sorted {α : Type} (key : α → String) where
  toList : List α
  ascending : Ascending key toList

namespace Sorted

variable {α : Type} {key : α → String}

instance [DecidableEq α] : DecidableEq (Sorted key) := fun a b =>
  if h : a.toList = b.toList then isTrue (by cases a; cases b; simp_all)
  else isFalse fun e => h (e ▸ rfl)

def empty : Sorted key := ⟨[], .nil⟩

instance : Inhabited (Sorted key) := ⟨empty⟩

instance : EmptyCollection (Sorted key) := ⟨empty⟩

def insert (x : α) (s : Sorted key) : Sorted key :=
  ⟨insertByKey key x s.toList, s.ascending.insertByKey⟩

/-- Files the elements one after the other. Of several with one key the last stays. -/
def ofList (xs : List α) : Sorted key := xs.foldl (fun s x => s.insert x) empty

/-- Removes the element with the given key. -/
def erase (s : Sorted key) (k : String) : Sorted key :=
  ⟨s.toList.filter fun x => key x != k, s.ascending.filter _⟩

def find? (s : Sorted key) (k : String) : Option α := s.toList.find? fun x => key x == k

def contains (s : Sorted key) (k : String) : Bool := s.toList.any fun x => key x == k

def isEmpty (s : Sorted key) : Bool := s.toList.isEmpty

theorem ext {s t : Sorted key} (h : s.toList = t.toList) : s = t := by
  cases s; cases t; simp_all

end Sorted

/-- Values filed under texts. -/
abbrev Table (α : Type) := Sorted (Prod.fst : String × α → String)

namespace Table

variable {α : Type}

def get? (t : Table α) (key : String) : Option α := (t.find? key).map Prod.snd

def set (t : Table α) (key : String) (value : α) : Table α := t.insert (key, value)

def keys (t : Table α) : List String := t.toList.map Prod.fst

end Table

/-- A set of texts. -/
abbrev TextSet := Sorted (id : String → String)

end Decorate
