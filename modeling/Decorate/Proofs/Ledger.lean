import Decorate.Proofs.Collection
import Decorate.Proofs.Shelves

/-!
# Registries as ledgers

To its users a registry is one list: the definitions in order of
registration, no two of them with the same name and version. `Ledger`
says so, with the commands as plain operations on that list, and
`Registry.Represents` is what ties the shelves and the remembered order
to it. Every command keeps the tie and gives the answer that the list
gives (`Registry.Represents.obey`), and a registry that is tied to a
list answers every query from it (`Registry.Represents.agrees`).

The headline is `Registry.run_agrees`, over all sequences of commands.
-/

namespace Decorate

/-! ## Commands -/

/-- A call that may change a registry. -/
inductive Command where
  | register (d : Definition)
  | registerAll (ds : List Definition)
  | unregister (name : String) (version : Option Version)

/-- What a command returns: the definitions that it removed, or why it was refused. -/
abbrev Answer := Except RegistryError (List Definition)

namespace Command

variable {α β : Type}

/-- Carries out a command with the operations of a collection of definitions. -/
def carryOut (register : α → Definition → α × Except RegistryError Unit)
    (registerAll : α → List Definition → α × Except RegistryError Unit)
    (unregister : α → String → Option Version → α × Answer) (a : α) : Command → α × Answer
  | .register d => (register a d).map id (·.map fun _ => [])
  | .registerAll ds => (registerAll a ds).map id (·.map fun _ => [])
  | .unregister name version => unregister a name version

/-- Obeys commands one after the other, refused or not. -/
def run (obey : α → Command → α × Answer) : α → List Command → α × List Answer
  | a, [] => (a, [])
  | a, c :: rest => ((run obey (obey a c).1 rest).1, (obey a c).2 :: (run obey (obey a c).1 rest).2)

/-- Two ways to obey that answer alike and keep a relation do so over whole runs. -/
theorem run_of_obey {R : α → β → Prop} {f : α → Command → α × Answer}
    {g : β → Command → β × Answer}
    (h : ∀ {a b}, R a b → ∀ c, (f a c).2 = (g b c).2 ∧ R (f a c).1 (g b c).1) :
    ∀ (cs : List Command) {a : α} {b : β}, R a b →
      (run f a cs).2 = (run g b cs).2 ∧ R (run f a cs).1 (run g b cs).1
  | [], _, _, hab => ⟨rfl, hab⟩
  | c :: rest, _, _, hab => by
      obtain ⟨hanswer, hkept⟩ := h hab c
      obtain ⟨hanswers, hkept⟩ := run_of_obey h rest hkept
      exact ⟨congrArg₂ List.cons hanswer hanswers, hkept⟩

end Command

def Registry.obey : Registry → Command → Registry × Answer :=
  Command.carryOut Registry.registerInPlace Registry.registerAll Registry.unregisterInPlace

/-! ## Ledgers -/

/-- Definitions in order of registration. -/
abbrev Ledger := List Definition

namespace Ledger

/-- Name and version, by which the entries of a ledger differ. -/
def key (d : Definition) : String × Version := (d.name.text, d.version)

/-- Holds of what a removal means: one version of a name, or all of them. -/
def isMeant (name : String) (version : Option Version) (d : Definition) : Bool :=
  d.name.text == name && version.all (· == d.version)

/-- Holds of what answers a request for a name, and for a version if one is given. -/
def Answers (name : String) (request : Option Version) (d : Definition) : Prop :=
  d.name.text = name ∧ ∀ v ∈ request, d.version.serves v = true

def ascending (ds : List Definition) : List Definition :=
  ds.mergeSort fun d e => d.version ≤ e.version

/-- A refused command leaves the ledger as it is. -/
def register (l : Ledger) (d : Definition) : Ledger × Except RegistryError Unit :=
  if key d ∈ l.map key then (l, .error (.duplicate d.name.text d.version)) else (l ++ [d], .ok ())

/-- Of definitions registered together those before the first duplicate are kept. -/
def registerAll (l : Ledger) : List Definition → Ledger × Except RegistryError Unit
  | [] => (l, .ok ())
  | d :: rest =>
    match register l d with
    | (l, .ok ()) => registerAll l rest
    | (l, .error e) => (l, .error e)

def unregister (l : Ledger) (name : String) (version : Option Version) : Ledger × Answer :=
  if l.any (isMeant name version) then
    (l.filter fun d => !isMeant name version d, .ok (ascending (l.filter (isMeant name version))))
  else (l, .error (.unknown name))

def obey : Ledger → Command → Ledger × Answer := Command.carryOut register registerAll unregister

/-- No two entries have the same name and version. -/
def Distinct (l : Ledger) : Prop := (l.map key).Nodup

variable {l : Ledger} {d e : Definition}

theorem Distinct.eq_of_key_eq (h : l.Distinct) (hd : d ∈ l) (he : e ∈ l) (heq : key d = key e) :
    d = e :=
  List.inj_on_of_nodup_map h hd he heq

theorem isMeant_iff {name : String} {version : Option Version} :
    isMeant name version d = true ↔
      d.name.text = name ∧ version.all (· == d.version) = true := by
  simp [isMeant]

/-- Removed versions come back in strictly ascending order. -/
theorem Distinct.ordered_ascending (h : l.Distinct) (name : String) (version : Option Version) :
    Shelf.Ordered (ascending (l.filter (isMeant name version))) := by
  have hle : (ascending (l.filter (isMeant name version))).Pairwise
      fun d e => d.version ≤ e.version := by
    refine (List.pairwise_mergeSort ?_ ?_ _).imp of_decide_eq_true
    · intro a b c hab hbc
      exact decide_eq_true (Version.le_trans (of_decide_eq_true hab) (of_decide_eq_true hbc))
    · intro a b
      rw [Bool.or_eq_true, decide_eq_true_eq, decide_eq_true_eq]
      exact Version.le_total a.version b.version
  have hne : (ascending (l.filter (isMeant name version))).Pairwise
      fun d e => d.version ≠ e.version := by
    refine ((List.mergeSort_perm _ _).pairwise_iff fun h => h.symm).mpr ?_
    refine List.Pairwise.imp_of_mem ?_ ((List.pairwise_map.mp h).filter _)
    intro a b ha hb hkey hversion
    have hname : a.name.text = b.name.text :=
      (isMeant_iff.mp (List.mem_filter.mp ha).2).1.trans
        (isMeant_iff.mp (List.mem_filter.mp hb).2).1.symm
    exact hkey (Prod.ext hname hversion)
  exact hle.imp₂ (fun _ _ => Version.lt_of_le_of_ne) hne

end Ledger

/-! ## The tie between a registry and a ledger -/

namespace Registry

theorem shelf_set (t : Table Shelf) (order : List (String × Version)) (n : String) (s : Shelf)
    (name : String) :
    shelf { shelves := t.set n s, order } name
      = if n = name then s else shelf { shelves := t, order } name := by
  unfold shelf
  rw [Table.get?_set]
  split <;> rfl

/-- Putting back what is left on a shelf, unless nothing is. -/
theorem shelf_putBack (t : Table Shelf) (order : List (String × Version)) (n : String) (s : Shelf)
    (name : String) :
    shelf { shelves := if s.isEmpty then t.erase n else t.set n s, order } name
      = if n = name then s else shelf { shelves := t, order } name := by
  split
  · rename_i hempty
    unfold shelf
    rw [Table.get?_erase]
    split
    · exact (List.isEmpty_iff.mp hempty).symm
    · rfl
  · exact shelf_set t order n s name

/-- The registry holds the entries of the ledger, each on the shelf of its name. -/
structure Represents (r : Registry) (l : Ledger) : Prop where
  order : r.order = l.map Ledger.key
  distinct : l.Distinct
  ordered : ∀ name, Shelf.Ordered (r.shelf name)
  mem_shelf : ∀ {name : String} {d : Definition}, d ∈ r.shelf name ↔ d ∈ l ∧ d.name.text = name
  /-- No shelf is kept for a name that has no definitions. -/
  filled : ∀ name, r.shelves.get? name ≠ some []

namespace Represents

variable {r : Registry} {l : Ledger} {name : String} {version : Option Version} {d : Definition}

theorem empty : Represents Registry.empty [] :=
  ⟨rfl, List.nodup_nil, fun _ => .nil, by simp [Registry.empty, shelf], by simp [Registry.empty]⟩

theorem find?_eq_some_iff (h : r.Represents l) {v : Version} :
    r.find? name v = some d ↔ d ∈ l ∧ Ledger.key d = (name, v) := by
  rw [Registry.find?, Shelf.find?_eq_some_iff (h.ordered name), h.mem_shelf, Ledger.key,
    Prod.mk.injEq, and_assoc]

theorem find?_eq_none_iff (h : r.Represents l) {v : Version} :
    r.find? name v = none ↔ (name, v) ∉ l.map Ledger.key := by
  rw [Option.eq_none_iff_forall_ne_some, List.mem_map, not_exists]
  refine forall_congr' fun d => ?_
  rw [← h.find?_eq_some_iff]

/-! ## Registration -/

theorem register_fresh (h : r.Represents l) (hfresh : Ledger.key d ∉ l.map Ledger.key) :
    Represents
      { shelves := r.shelves.set d.name.text (Shelf.insert d (r.shelf d.name.text)),
        order := r.order ++ [(d.name.text, d.version)] } (l ++ [d]) := by
  have hversion : ∀ e ∈ r.shelf d.name.text, e.version ≠ d.version := by
    intro e he heq
    obtain ⟨hel, hname⟩ := h.mem_shelf.mp he
    exact hfresh (List.mem_map.mpr ⟨e, hel, Prod.ext hname heq⟩)
  refine ⟨?_, ?_, ?_, ?_, ?_⟩
  · rw [List.map_append, h.order]
    rfl
  · rw [Ledger.Distinct, List.map_append, List.map_singleton]
    exact List.nodup_append.mpr ⟨h.distinct, List.nodup_singleton _, by
      rintro _ hmem _ hd rfl
      exact hfresh (List.mem_singleton.mp hd ▸ hmem)⟩
  · intro name
    rw [shelf_set]
    split
    · exact (h.ordered _).insert hversion
    · exact h.ordered name
  · intro name e
    rw [shelf_set, List.mem_append, List.mem_singleton]
    split
    · rename_i hname
      subst hname
      rw [Shelf.mem_insert, h.mem_shelf]
      constructor
      · rintro (rfl | ⟨he, hname⟩)
        · exact ⟨Or.inr rfl, rfl⟩
        · exact ⟨Or.inl he, hname⟩
      · rintro ⟨he | rfl, hname⟩
        · exact Or.inr ⟨he, hname⟩
        · exact Or.inl rfl
    · rename_i hname
      refine Iff.trans h.mem_shelf ⟨fun he => ⟨Or.inl he.1, he.2⟩, ?_⟩
      rintro ⟨he | rfl, hen⟩
      · exact ⟨he, hen⟩
      · exact absurd hen hname
  · intro name
    rw [Table.get?_set]
    split
    · intro hnil
      have hmem : d ∈ Shelf.insert d (r.shelf d.name.text) := Shelf.mem_insert.mpr (Or.inl rfl)
      rw [Option.some.inj hnil] at hmem
      cases hmem
    · exact h.filled name

/-- A duplicate leaves a shelf behind that was there before. -/
theorem register_duplicate (h : r.Represents l) {e : Definition}
    (he : r.find? d.name.text d.version = some e) :
    Represents { r with shelves := r.shelves.set d.name.text (r.shelf d.name.text) } l := by
  have hsame : ∀ name,
      shelf { r with shelves := r.shelves.set d.name.text (r.shelf d.name.text) } name
        = r.shelf name := by
    intro name
    rw [shelf_set]
    split
    · rename_i hname
      rw [hname]
    · rfl
  refine ⟨h.order, h.distinct, fun name => ?_, fun {name} _ => ?_, fun name => ?_⟩
  · rw [hsame]
    exact h.ordered name
  · rw [hsame]
    exact h.mem_shelf
  · rw [Table.get?_set]
    split
    · intro hnil
      obtain ⟨hmem, -⟩ := (Shelf.find?_eq_some_iff (h.ordered _)).mp he
      rw [Option.some.inj hnil] at hmem
      cases hmem
    · exact h.filled name

/-- A registry registers what the ledger does not have yet. -/
theorem registerInPlace (h : r.Represents l) (d : Definition) :
    (r.registerInPlace d).2 = (l.register d).2
      ∧ Represents (r.registerInPlace d).1 (l.register d).1 := by
  unfold Registry.registerInPlace Ledger.register
  simp only
  split
  · rename_i e he
    have hkey : Ledger.key d ∈ l.map Ledger.key :=
      List.mem_map.mpr ⟨e, h.find?_eq_some_iff.mp he⟩
    rw [if_pos hkey]
    exact ⟨rfl, h.register_duplicate he⟩
  · rename_i hnone
    have hkey : Ledger.key d ∉ l.map Ledger.key := h.find?_eq_none_iff.mp hnone
    rw [if_neg hkey]
    exact ⟨rfl, h.register_fresh hkey⟩

theorem registerAll : ∀ (ds : List Definition) {r : Registry} {l : Ledger}, r.Represents l →
    (r.registerAll ds).2 = (l.registerAll ds).2
      ∧ Represents (r.registerAll ds).1 (l.registerAll ds).1
  | [], _, _, h => ⟨rfl, h⟩
  | d :: rest, r, l, h => by
      unfold Registry.registerAll Ledger.registerAll
      obtain ⟨hanswer, h'⟩ := h.registerInPlace d
      cases hr : r.registerInPlace d with
      | mk r' answer =>
          cases hl : l.register d with
          | mk l' answer' =>
              rw [hr, hl] at hanswer h'
              obtain rfl : answer = answer' := hanswer
              cases answer with
              | ok u => exact registerAll rest h'
              | error e => exact ⟨rfl, h'⟩

/-! ## Removal -/

theorem exists_mem_shelf_iff (h : r.Represents l) :
    (∃ d ∈ r.shelf name, version.all (· == d.version) = true)
      ↔ l.any (Ledger.isMeant name version) = true := by
  rw [List.any_eq_true]
  refine exists_congr fun d => ?_
  rw [h.mem_shelf, Ledger.isMeant_iff, and_assoc]

theorem mem_gone (h : r.Represents l) {gone : List Definition}
    (hgone : (r.shelf name).removed? version = some gone) :
    d ∈ gone ↔ d ∈ l ∧ Ledger.isMeant name version d = true := by
  rw [((h.ordered name).removed? hgone).2, h.mem_shelf, Ledger.isMeant_iff, and_assoc]

theorem gone_eq (h : r.Represents l) {gone : List Definition}
    (hgone : (r.shelf name).removed? version = some gone) :
    gone = Ledger.ascending (l.filter (Ledger.isMeant name version)) := by
  refine ((h.ordered name).removed? hgone).1.ext (h.distinct.ordered_ascending name version)
    fun d => ?_
  rw [h.mem_gone hgone, Ledger.ascending, List.mem_mergeSort, List.mem_filter]

/-- What is told apart by version within its name is what was meant. -/
theorem isGone_eq (h : r.Represents l) {gone : List Definition}
    (hgone : (r.shelf name).removed? version = some gone) (hd : d ∈ l) :
    (d.name.text == name && gone.any fun e => e.version == d.version)
      = Ledger.isMeant name version d := by
  rw [Bool.eq_iff_iff, Bool.and_eq_true, List.any_eq_true, beq_iff_eq]
  constructor
  · rintro ⟨hname, e, he, hversion⟩
    obtain ⟨hel, hmeant⟩ := (h.mem_gone hgone).mp he
    have hkey : Ledger.key e = Ledger.key d :=
      Prod.ext ((Ledger.isMeant_iff.mp hmeant).1.trans hname.symm) (beq_iff_eq.mp hversion)
    rw [← h.distinct.eq_of_key_eq hel hd hkey]
    exact hmeant
  · intro hmeant
    exact ⟨(Ledger.isMeant_iff.mp hmeant).1, d, (h.mem_gone hgone).mpr ⟨hd, hmeant⟩,
      beq_self_eq_true _⟩

theorem strike (h : r.Represents l) {gone : List Definition}
    (hgone : (r.shelf name).removed? version = some gone) {s : Shelf}
    (hs : s = (r.shelf name).filter fun d => !gone.any fun e => e.version == d.version) :
    Represents
      { shelves := if s.isEmpty then r.shelves.erase name else r.shelves.set name s,
        order := r.order.filter fun (n, v) => !(n == name && gone.any fun e => e.version == v) }
      (l.filter fun d => !Ledger.isMeant name version d) := by
  refine ⟨?_, ?_, ?_, ?_, ?_⟩
  · -- the order names what is gone by version, the ledger by what was meant
    rw [h.order, List.filter_map]
    refine congrArg (List.map Ledger.key) (List.filter_congr fun d hd => ?_)
    exact congrArg Bool.not (h.isGone_eq hgone hd)
  · exact List.Nodup.sublist (List.filter_sublist.map Ledger.key) h.distinct
  · intro n
    rw [shelf_putBack]
    split
    · rw [hs]
      exact (h.ordered name).filter _
    · exact h.ordered n
  · intro n d
    rw [shelf_putBack, List.mem_filter]
    split
    · rename_i hn
      subst hn
      rw [hs, List.mem_filter, h.mem_shelf, and_right_comm, and_congr_left_iff]
      rintro hname
      refine and_congr_right fun hd => ?_
      rw [← h.isGone_eq hgone hd, beq_iff_eq.mpr hname, Bool.true_and]
    · rename_i hn
      refine Iff.trans h.mem_shelf ⟨?_, fun hd => ⟨hd.1.1, hd.2⟩⟩
      rintro ⟨hd, rfl⟩
      have hne : (d.name.text == name) = false := beq_eq_false_iff_ne.mpr fun heq => hn heq.symm
      exact ⟨⟨hd, by rw [Ledger.isMeant, hne]; rfl⟩, rfl⟩
  · intro n
    split
    · rw [Table.get?_erase]
      split
      · exact Option.some_ne_none _ |>.symm
      · exact h.filled n
    · rename_i hne
      rw [Table.get?_set]
      split
      · exact fun hnil => hne (by rw [Option.some.inj hnil]; rfl)
      · exact h.filled n

/-- A registry removes from its shelves what the ledger strikes out. -/
theorem unregisterInPlace (h : r.Represents l) (name : String) (version : Option Version) :
    (r.unregisterInPlace name version).2 = (l.unregister name version).2
      ∧ Represents (r.unregisterInPlace name version).1 (l.unregister name version).1 := by
  have hmeant : (∃ d ∈ r.shelf name, version.all (· == d.version) = true)
      ↔ l.any (Ledger.isMeant name version) = true := h.exists_mem_shelf_iff
  unfold Registry.unregisterInPlace Ledger.unregister
  cases hs : r.shelves.get? name with
  | none =>
      have hshelf : r.shelf name = [] := by rw [shelf, hs, Option.getD_none]
      rw [if_neg]
      · exact ⟨rfl, h⟩
      · rw [← hmeant, hshelf]
        rintro ⟨d, hd, -⟩
        cases hd
  | some s =>
      have hshelf : r.shelf name = s := by rw [shelf, hs, Option.getD_some]
      have hne : s ≠ [] := fun hnil => h.filled name (hnil ▸ hs)
      simp only
      cases hgone : s.removed? version with
      | none =>
          rw [if_neg]
          · exact ⟨rfl, h⟩
          · rw [← hmeant, hshelf]
            rintro ⟨d, hd, hversion⟩
            rw [Shelf.lacks_of_removed?_eq_none hgone d hd] at hversion
            cases hversion
      | some gone =>
          rw [← hshelf] at hgone hne ⊢
          obtain ⟨d, hd⟩ := List.exists_mem_of_ne_nil _ (Shelf.ne_nil_of_removed? hne hgone)
          rw [if_pos (hmeant.mp ⟨d, (((h.ordered name).removed? hgone).2 d).mp hd⟩),
            ← h.gone_eq hgone]
          exact ⟨rfl, h.strike hgone rfl⟩

/-! ## Runs -/

/-- **Every command keeps the tie and is answered as the ledger answers it.** -/
theorem obey (h : r.Represents l) (c : Command) :
    (r.obey c).2 = (l.obey c).2 ∧ Represents (r.obey c).1 (l.obey c).1 := by
  cases c with
  | register d =>
      obtain ⟨hanswer, hkept⟩ := h.registerInPlace d
      exact ⟨congrArg (Except.map fun _ => []) hanswer, hkept⟩
  | registerAll ds =>
      obtain ⟨hanswer, hkept⟩ := registerAll ds h
      exact ⟨congrArg (Except.map fun _ => []) hanswer, hkept⟩
  | unregister name version => exact h.unregisterInPlace name version

/-! ## Queries -/

theorem exists_named_iff (h : r.Represents l) :
    (∃ d ∈ l, d.name.text = name) ↔ r.shelf name ≠ [] := by
  rw [← List.isEmpty_eq_false_iff, List.isEmpty_eq_false_iff_exists_mem]
  simp only [h.mem_shelf]

theorem toList_eq (h : r.Represents l) : r.toList = l := by
  rw [Registry.toList, h.order, List.filterMap_map]
  have hfound : ∀ d ∈ l, r.find? (Ledger.key d).1 (Ledger.key d).2 = some d :=
    fun d hd => h.find?_eq_some_iff.mpr ⟨hd, rfl⟩
  exact (List.filterMap_congr hfound).trans List.filterMap_some

/-- There is a shelf for every registered name, and for no other. -/
theorem isSome_shelf_iff (h : r.Represents l) :
    (r.shelves.get? name).isSome = true ↔ ∃ d ∈ l, d.name.text = name := by
  rw [h.exists_named_iff, shelf]
  have hfilled := h.filled name
  cases hs : r.shelves.get? name with
  | none => simp
  | some s =>
      rw [hs] at hfilled
      simpa using hfilled

theorem mem_versions (h : r.Represents l) {v : Version} :
    v ∈ r.versions name ↔ ∃ d ∈ l, d.name.text = name ∧ d.version = v := by
  simp only [Registry.versions, Shelf.versions, List.mem_map, h.mem_shelf, and_assoc]

/-- What is asked for on one shelf is the highest in the ledger under its name. -/
theorem highest_shelf_iff (h : r.Represents l) {p : Definition → Prop} :
    Definition.Highest (r.shelf name) p d
      ↔ Definition.Highest l (fun e => e.name.text = name ∧ p e) d := by
  unfold Definition.Highest
  simp only [h.mem_shelf, and_imp, and_assoc]

theorem latest?_eq_some_iff (h : r.Represents l) :
    r.latest? name = some d ↔ Definition.Highest l (fun e => e.name.text = name) d := by
  rw [Registry.latest?, (h.ordered name).getLast?_eq_some_iff, h.highest_shelf_iff]
  simp only [and_true]

theorem latest?_eq_none_iff (h : r.Represents l) :
    r.latest? name = none ↔ ∀ d ∈ l, d.name.text ≠ name := by
  rw [Registry.latest?, List.getLast?_eq_none_iff, ← not_iff_not, ← ne_eq, ← h.exists_named_iff]
  simp

theorem lookup_eq_ok_iff (h : r.Represents l) {request : Option Version} :
    r.lookup name request = .ok d ↔ Definition.Highest l (Ledger.Answers name request) d := by
  have hanswers : Definition.Highest l (Ledger.Answers name request) d
      ↔ (r.shelf name).answer? request = some d :=
    h.highest_shelf_iff.symm.trans (h.ordered name).answer?_eq_some_iff.symm
  rw [hanswers, lookup]
  cases hs : r.shelves.get? name with
  | none =>
      rw [shelf, hs, Option.getD_none]
      cases request <;> simp [Shelf.answer?, Shelf.serving?]
  | some s =>
      rw [shelf, hs, Option.getD_some]
      simp only
      cases s.answer? request <;> simp

/-- There is no answer where the name has no shelf, or none on it serves the version that is
asked for. -/
theorem lookup_eq_error_iff (h : r.Represents l) {request : Option Version} {e : RegistryError} :
    r.lookup name request = .error e ↔
      (e = .unknown name ∧ ∀ d ∈ l, d.name.text ≠ name)
        ∨ ∃ v, request = some v ∧ e = .incompatible name v (r.versions name)
            ∧ (∃ d ∈ l, d.name.text = name)
            ∧ ∀ d ∈ l, d.name.text = name → d.version.serves v = false := by
  have hnamed : (r.shelves.get? name).isSome = true ↔ ∃ d ∈ l, d.name.text = name :=
    h.isSome_shelf_iff
  rw [lookup]
  cases hs : r.shelves.get? name with
  | none =>
      rw [hs] at hnamed
      have hnone : ∀ d ∈ l, d.name.text ≠ name := fun d hd heq =>
        nomatch hnamed.mpr ⟨d, hd, heq⟩
      refine ⟨fun he => Or.inl ⟨(Except.error.inj he).symm, hnone⟩, ?_⟩
      rintro (⟨rfl, -⟩ | ⟨v, -, -, ⟨d, hd, heq⟩, -⟩)
      · rfl
      · exact absurd heq (hnone d hd)
  | some s =>
      rw [hs] at hnamed
      obtain ⟨d₀, hd₀, hname₀⟩ := hnamed.mp rfl
      have hshelf : r.shelf name = s := by rw [shelf, hs, Option.getD_some]
      have hmem : ∀ d, d ∈ s ↔ d ∈ l ∧ d.name.text = name := fun d => by
        rw [← hshelf, h.mem_shelf]
      rw [versions, hshelf]
      simp only
      cases ha : s.answer? request with
      | some d =>
          obtain ⟨hd, hserves, -⟩ := ((hshelf ▸ h.ordered name).answer?_eq_some_iff).mp ha
          refine ⟨(fun he => nomatch he), ?_⟩
          rintro (⟨-, hnone⟩ | ⟨v, rfl, -, -, hnone⟩)
          · exact absurd hname₀ (hnone d₀ hd₀)
          · have hnot := hnone d ((hmem d).mp hd).1 ((hmem d).mp hd).2
            rw [hserves v rfl] at hnot
            cases hnot
      | none =>
          have hnone := Shelf.answer?_eq_none_iff.mp ha
          obtain ⟨v, hv, -⟩ := hnone d₀ ((hmem d₀).mpr ⟨hd₀, hname₀⟩)
          obtain rfl : request = some v := hv
          refine ⟨fun he => Or.inr ⟨v, rfl, (Except.error.inj he).symm, ⟨d₀, hd₀, hname₀⟩, ?_⟩, ?_⟩
          · intro d hd hname
            obtain ⟨w, hw, hserves⟩ := hnone d ((hmem d).mpr ⟨hd, hname⟩)
            rw [Option.mem_some_iff.mp hw]
            exact hserves
          · rintro (⟨-, hunknown⟩ | ⟨w, hw, rfl, -, -⟩)
            · exact absurd hname₀ (hunknown d₀ hd₀)
            · obtain rfl := Option.some.inj hw
              rfl

end Represents

theorem foldl_addNew (xs : List String) : ∀ seen : List String,
    xs.foldl addNew seen = seen ++ (xs.filter fun s => !seen.contains s).eraseDups := by
  induction xs with
  | nil => intro seen; simp
  | cons x rest ih =>
      intro seen
      rw [List.foldl_cons, ih, addNew]
      cases hx : seen.contains x with
      | true =>
          rw [List.filter_cons_of_neg (by rw [hx]; decide)]
          rfl
      | false =>
          have hfilter : ∀ s ∈ rest,
              (!(seen ++ [x]).contains s) = ((!s == x) && !seen.contains s) := by
            intro s _
            rw [Bool.eq_iff_iff]
            simp [and_comm]
          rw [List.filter_cons_of_pos (by rw [hx]; rfl), List.eraseDups_cons, List.filter_filter,
            ← List.filter_congr hfilter]
          simp

/-- The registry answers every query as the ledger does. -/
structure Agrees (r : Registry) (l : Ledger) : Prop where
  toList : r.toList = l
  size : r.size = l.length
  isEmpty : r.isEmpty = l.isEmpty
  contains : ∀ name, r.contains name = true ↔ ∃ d ∈ l, d.name.text = name
  ascending_versions : ∀ name, (r.versions name).Pairwise (· < ·)
  mem_versions : ∀ name v,
    v ∈ r.versions name ↔ ∃ d ∈ l, d.name.text = name ∧ d.version = v
  ascending_names : r.names.Pairwise (· < ·)
  mem_names : ∀ name, name ∈ r.names ↔ ∃ d ∈ l, d.name.text = name
  categories : r.categories = (l.map Definition.category).eraseDups
  inCategory : ∀ category, r.inCategory category = l.filter (·.category == category)
  supportingModel : ∀ model,
    r.supportingModel model = l.filter (·.compatibility.supportsModel model)
  supportingStandard : ∀ v,
    r.supportingStandard v = l.filter (·.compatibility.standard.contains v)
  latest : ∀ name d,
    r.latest? name = some d ↔ Definition.Highest l (fun e => e.name.text = name) d
  latest_none : ∀ name, r.latest? name = none ↔ ∀ d ∈ l, d.name.text ≠ name
  lookup_ok : ∀ name request d,
    r.lookup name request = .ok d ↔ Definition.Highest l (Ledger.Answers name request) d
  lookup_error : ∀ name request e,
    r.lookup name request = .error e ↔
      (e = .unknown name ∧ ∀ d ∈ l, d.name.text ≠ name)
        ∨ ∃ v, request = some v ∧ e = .incompatible name v (r.versions name)
            ∧ (∃ d ∈ l, d.name.text = name)
            ∧ ∀ d ∈ l, d.name.text = name → d.version.serves v = false

theorem Represents.agrees {r : Registry} {l : Ledger} (h : r.Represents l) : r.Agrees l where
  toList := h.toList_eq
  size := by rw [size, h.order, List.length_map]
  isEmpty := by rw [isEmpty, h.order, List.isEmpty_map]
  contains name := by rw [contains, Table.contains_eq_isSome, h.isSome_shelf_iff]
  ascending_versions name := Shelf.ascending_versions (h.ordered name)
  mem_versions _ _ := h.mem_versions
  ascending_names := Table.keys_ascending r.shelves
  mem_names name := by
    rw [names, Table.mem_keys, ← Option.isSome_iff_exists, h.isSome_shelf_iff]
  categories := by
    rw [categories, h.toList_eq, foldl_addNew]
    simp
  inCategory _ := by rw [inCategory, h.toList_eq]
  supportingModel _ := by rw [supportingModel, h.toList_eq]
  supportingStandard _ := by rw [supportingStandard, h.toList_eq]
  latest _ _ := h.latest?_eq_some_iff
  latest_none _ := h.latest?_eq_none_iff
  lookup_ok _ _ _ := h.lookup_eq_ok_iff
  lookup_error _ _ _ := h.lookup_eq_error_iff

/-- **Whatever commands a new registry obeys, it answers them as the ledger does, and
then every query as well.** -/
theorem run_agrees (commands : List Command) :
    (Command.run obey empty commands).2 = (Command.run Ledger.obey [] commands).2
      ∧ Ledger.Distinct (Command.run Ledger.obey [] commands).1
      ∧ Agrees (Command.run obey empty commands).1 (Command.run Ledger.obey [] commands).1 := by
  obtain ⟨hanswers, hrepresents⟩ :=
    Command.run_of_obey Represents.obey commands Represents.empty
  exact ⟨hanswers, hrepresents.distinct, hrepresents.agrees⟩

/-! ## Reachable registries -/

/-- A registry that commands can lead to. -/
def Reachable (r : Registry) : Prop := ∃ commands, (Command.run obey empty commands).1 = r

theorem Reachable.represents {r : Registry} (h : r.Reachable) : ∃ l, r.Represents l := by
  obtain ⟨commands, rfl⟩ := h
  exact ⟨_, (Command.run_of_obey Represents.obey commands Represents.empty).2⟩

/-- What is found under a name has that name. -/
theorem Reachable.name_of_latest? {r : Registry} (h : r.Reachable) {name : String}
    {d : Definition} (hd : r.latest? name = some d) : d.name.text = name := by
  obtain ⟨l, hl⟩ := h.represents
  exact (hl.latest?_eq_some_iff.mp hd).2.1

end Registry

end Decorate
