import Decorate.Proofs.Binding

/-!
# What validation accepts

`Shape.Conforms` says of which documents a shape approves, without the
walk that checks them: bounds as inequalities, texts by the number of
their characters, lists by all of their items. `Value.Carries` says that
a value holds what a document does.

Bounds on numbers may be infinite, and inequalities say of infinite
bounds what the check does with them. With a NaN they do not: it is in
no order with any number, so that no number conforms, and the check,
which asks whether a number is out of bounds, refuses none. The results
are about shapes in which no bound is the NaN.

`Shape.exists_check_iff` is soundness and completeness of the check for
both recursions at once, that over the document and that over nested
shapes: a shape approves of its items in one of two ways
(`Shape.checkItem`), and whatever these accept, the check of a list
inherits (`exists_checkItems_iff`). A list that fails is reported at its
first item that does (`checkItems_eq_error_iff`). Limits that do not
concern the kind can be left out (`Shape.check_relevant`).
-/

namespace Decorate

/-! ## Conforming documents -/

/-- The order of the numbers other than the NaN. -/
inductive Double.Le : Double → Double → Prop where
  | finite {x y : Binary64} : x.toInt ≤ y.toInt → Le (.finite x) (.finite y)
  | negative {y : Double} : y ≠ .nan → Le (.infinite true) y
  | positive {x : Double} : x ≠ .nan → Le x (.infinite false)

instance : LE Double := ⟨Double.Le⟩

/-- Holds of what lies within inclusive bounds, when they are measured this way. -/
def Bounds.Encloses {α β : Type} [LE β] (b : Bounds α) (measure : α → β) (x : β) : Prop :=
  (∀ min, b.min = some min → measure min ≤ x) ∧ ∀ max, b.max = some max → x ≤ measure max

/-- Flags, numbers, texts, and lists of these to any depth. -/
inductive Json.Plain : Json → Prop where
  | bool (b : Bool) : Plain (.bool b)
  | num (n : Json.Number) : Plain (.num n)
  | str (s : String) : Plain (.str s)
  | arr {items : List Json} : (∀ j ∈ items, Plain j) → Plain (.arr items)

/-- The value holds what the document does. -/
inductive Value.Carries : Value → Json → Prop where
  | bool (b : Bool) : Carries (.bool b) (.bool b)
  | number (n : Json.Number) : Carries (.number n.toBinary64) (.num n)
  | text (s : String) : Carries (.text s) (.str s)
  | list {values : List Value} {items : List Json} :
      values.length = items.length →
      (∀ (k : Nat) (v : Value) (j : Json), values[k]? = some v → items[k]? = some j →
        Carries v j) →
      Carries (.list values) (.arr items)

/-- The text is found by a pattern, if there is one, and the pattern compiles. -/
def Limits.Finds (l : Limits) (s : String) : Prop :=
  ∀ text, l.pattern = some text → ∃ pattern, Pattern.ofString? text = some pattern
    ∧ pattern.isMatch s = true

/-- The documents of which a shape approves. Numbers are compared by value with bounds that
may be infinite, and the length of a text is the number of its characters. -/
inductive Shape.Conforms : Shape → Json → Prop where
  | boolean {s : Shape} {b : Bool} : s.kind = .boolean → Conforms s (.bool b)
  | number {s : Shape} {n : Json.Number} :
      s.kind = .number → s.limits.range.Encloses id (.finite n.toBinary64) →
      Conforms s (.num n)
  | enum {s : Shape} {t : String} : s.kind = .enum → t ∈ s.limits.allowed → Conforms s (.str t)
  | text {s : Shape} {t : String} :
      s.kind = .text → s.limits.length.Encloses UInt64.toNat t.length → s.limits.Finds t →
      Conforms s (.str t)
  | untyped {limits : Limits} {items : List Json} :
      limits.length.Encloses UInt64.toNat items.length → (∀ j ∈ items, j.Plain) →
      Conforms (.simple .list limits) (.arr items)
  | typed {limits : Limits} {inner : Shape} {items : List Json} :
      limits.length.Encloses UInt64.toNat items.length → (∀ j ∈ items, Conforms inner j) →
      Conforms (.withItems .list limits inner) (.arr items)

/-! ## Bounds -/

theorem Bounds.admits_iff {b : Bounds UInt64} {n : Nat} :
    b.admits n = true ↔ b.Encloses UInt64.toNat n := by
  simp [admits, Encloses, Option.all_eq_true]

/-- Of two numbers that are not the NaN, the one is less or the other at most as large. -/
theorem Double.lt_eq_false_iff {x y : Double} (hx : x ≠ nan) (hy : y ≠ nan) :
    x.lt y = false ↔ y ≤ x := by
  constructor
  · intro h
    cases x with
    | nan => exact absurd rfl hx
    | infinite negative =>
        cases negative with
        | false => exact .positive hy
        | true =>
            obtain rfl : y = infinite true := by cases y <;> simp_all [lt]
            exact .negative hx
    | finite x =>
        cases y with
        | nan => exact absurd rfl hy
        | infinite negative =>
            obtain rfl : negative = true := by simpa [lt] using h
            exact .negative hx
        | finite y => exact .finite (by simpa [lt, Binary64.lt] using h)
  · intro h
    cases h with
    | finite hle => simpa [lt, Binary64.lt] using hle
    | negative hx => cases x <;> simp [lt]
    | positive hy => cases y <;> simp [lt]

/-- Where the bounds are not the NaN, to be admitted is to lie within them. -/
theorem Limits.admitsNumber_iff {l : Limits} (hl : .nan ∉ l.bounds) {x : Binary64} :
    l.range.admitsNumber x = true ↔ l.range.Encloses id (.finite x) := by
  have hmin : ∀ min, l.range.min = some min → min ≠ .nan := by
    rintro min hmin rfl
    exact hl (by simp [bounds, hmin])
  have hmax : ∀ max, l.range.max = some max → max ≠ .nan := by
    rintro max hmax rfl
    exact hl (by simp [bounds, hmax])
  simp only [Bounds.admitsNumber, Bounds.Encloses, Bool.and_eq_true, Option.all_eq_true,
    Bool.not_eq_true', id_eq]
  exact and_congr
    (forall₂_congr fun min h => Double.lt_eq_false_iff Double.noConfusion (hmin min h))
    (forall₂_congr fun max h => Double.lt_eq_false_iff (hmax max h) Double.noConfusion)

/-! ## Texts -/

theorem checkText_eq_ok_iff {l : Limits} {s : String} {v : Value} :
    checkText l s = .ok v ↔
      v = .text s ∧ l.length.Encloses UInt64.toNat s.length ∧ l.Finds s := by
  have hok : Except.ok (.text s) = (Except.ok v : Except Violation Value) ↔ v = .text s := by
    rw [Except.ok.injEq, eq_comm]
  rw [← Bounds.admits_iff, ← String.length_toList]
  unfold checkText Limits.Finds
  cases l.length.admits s.toList.length with
  | false => simp
  | true =>
      cases l.pattern with
      | none => simp [hok]
      | some text =>
          cases hp : Pattern.ofString? text with
          | none => simp [hp]
          | some pattern => cases hm : pattern.isMatch s <;> simp [hp, hm, hok]

/-! ## Items -/

mutual
/-- A value can be read off exactly the plain documents. -/
theorem Value.exists_ofJson?_iff : (j : Json) → ((∃ v, ofJson? j = some v) ↔ j.Plain)
  | .null => ⟨(fun ⟨_, h⟩ => nomatch h), (fun h => nomatch h)⟩
  | .bool b => ⟨fun _ => .bool b, fun _ => ⟨_, rfl⟩⟩
  | .num n => ⟨fun _ => .num n, fun _ => ⟨_, rfl⟩⟩
  | .str s => ⟨fun _ => .str s, fun _ => ⟨_, rfl⟩⟩
  | .arr items => by
      have hitems := exists_ofJsonItems?_iff items
      constructor
      · rintro ⟨v, hv⟩
        obtain ⟨vs, hvs, -⟩ := Option.map_eq_some_iff.mp hv
        exact .arr (hitems.mp ⟨vs, hvs⟩)
      · intro h
        cases h with
        | arr h =>
            obtain ⟨vs, hvs⟩ := hitems.mpr h
            exact ⟨.list vs, Option.map_eq_some_iff.mpr ⟨vs, hvs, rfl⟩⟩
  | .obj _ => ⟨(fun ⟨_, h⟩ => nomatch h), (fun h => nomatch h)⟩

theorem Value.exists_ofJsonItems?_iff :
    (items : List Json) → ((∃ vs, ofJsonItems? items = some vs) ↔ ∀ j ∈ items, j.Plain)
  | [] => ⟨fun _ => List.forall_mem_nil _, fun _ => ⟨[], rfl⟩⟩
  | j :: rest => by
      rw [List.forall_mem_cons, ← exists_ofJson?_iff j, ← exists_ofJsonItems?_iff rest]
      rw [ofJsonItems?]
      cases ofJson? j <;> cases ofJsonItems? rest <;> simp
end

mutual
/-- A value that is read off a document holds what the document does. -/
theorem Value.carries_of_ofJson? : {j : Json} → {v : Value} → ofJson? j = some v → v.Carries j
  | .null, _, h => nomatch h
  | .bool b, _, h => Option.some.inj h ▸ .bool b
  | .num n, _, h => Option.some.inj h ▸ .number n
  | .str s, _, h => Option.some.inj h ▸ .text s
  | .arr _, _, h => by
      obtain ⟨vs, hvs, rfl⟩ := Option.map_eq_some_iff.mp h
      exact .list (length_ofJsonItems? hvs).symm (carries_of_ofJsonItems? hvs)
  | .obj _, _, h => nomatch h

theorem Value.carries_of_ofJsonItems? :
    {items : List Json} → {vs : List Value} → ofJsonItems? items = some vs →
      ∀ (k : Nat) (v : Value) (j : Json), vs[k]? = some v → items[k]? = some j → v.Carries j
  | [], _, _, _, _, _, _, hj => nomatch hj
  | i :: rest, vs, h, k, v, j, hv, hj => by
      rw [ofJsonItems?] at h
      split at h
      · rename_i w ws hw hws
        obtain rfl := Option.some.inj h
        cases k with
        | zero =>
            obtain rfl := Option.some.inj hv
            obtain rfl := Option.some.inj hj
            exact carries_of_ofJson? hw
        | succ k => exact carries_of_ofJsonItems? hws k v j hv hj
      · cases h
end

theorem checkUntyped_eq_ok_iff {j : Json} {v : Value} :
    checkUntyped j = .ok v ↔ Value.ofJson? j = some v := by
  unfold checkUntyped
  cases Value.ofJson? j <;> simp

theorem exists_checkUntyped_iff {j : Json} : (∃ v, checkUntyped j = .ok v) ↔ j.Plain := by
  simp only [← Value.exists_ofJson?_iff, checkUntyped_eq_ok_iff]

variable {item : Json → Except Violation Value}

/-- The values of an accepted list are those of its items, one for one. -/
theorem item_of_checkItems :
    ∀ {items : List Json} {vs : List Value} {k : Nat}, checkItems item k items = .ok vs →
      ∀ (p : Nat) (v : Value) (j : Json), vs[p]? = some v → items[p]? = some j → item j = .ok v
  | [], _, _, _, _, _, _, _, hj => nomatch hj
  | i :: rest, vs, k, h, p, v, j, hv, hj => by
      unfold checkItems at h
      split at h
      · cases h
      · rename_i w hw
        split at h
        · cases h
        · rename_i ws hws
          obtain rfl := Except.ok.inj h
          cases p with
          | zero =>
              obtain rfl := Option.some.inj hv
              obtain rfl := Option.some.inj hj
              exact hw
          | succ p => exact item_of_checkItems hws p v j hv hj

/-- A list is accepted when each of its items is. -/
theorem exists_checkItems_iff :
    ∀ (items : List Json) {k : Nat},
      (∃ vs, checkItems item k items = .ok vs) ↔ ∀ j ∈ items, ∃ v, item j = .ok v
  | [], _ => ⟨fun _ => List.forall_mem_nil _, fun _ => ⟨[], rfl⟩⟩
  | j :: rest, k => by
      rw [List.forall_mem_cons, ← exists_checkItems_iff rest (k := k + 1), checkItems]
      cases item j with
      | error e => simp
      | ok v => cases checkItems item (k + 1) rest <;> simp

/-- A list is refused for the first of its items that is refused. -/
theorem checkItems_eq_error_iff :
    ∀ (items : List Json) {e : Violation} {k : Nat},
      checkItems item k items = .error e ↔
        ∃ before j after v, items = before ++ j :: after ∧ (∀ i ∈ before, ∃ w, item i = .ok w)
          ∧ item j = .error v ∧ e = .item (k + before.length) v
  | [], e, k => by
      refine ⟨(fun h => nomatch h), ?_⟩
      rintro ⟨before, j, after, v, hsplit, -⟩
      cases before <;> cases hsplit
  | j :: rest, e, k => by
      have ih := checkItems_eq_error_iff rest (e := e) (k := k + 1)
      cases hj : item j with
      | error v =>
          have hfirst : checkItems item k (j :: rest) = .error (.item k v) := by
            rw [checkItems, hj]
          rw [hfirst]
          constructor
          · intro h
            exact ⟨[], j, rest, v, rfl, List.forall_mem_nil _, hj, (Except.error.inj h).symm⟩
          · rintro ⟨before, j', after, v', hsplit, hbefore, hj', rfl⟩
            cases before with
            | nil =>
                obtain ⟨rfl, rfl⟩ := List.cons.inj hsplit
                rw [Except.error.inj (hj.symm.trans hj')]
                rfl
            | cons i before =>
                obtain ⟨rfl, -⟩ := List.cons.inj hsplit
                obtain ⟨w, hw⟩ := hbefore j List.mem_cons_self
                cases hj.symm.trans hw
      | ok v =>
          have hrest : checkItems item k (j :: rest) = .error e
              ↔ checkItems item (k + 1) rest = .error e := by
            rw [checkItems, hj]
            cases checkItems item (k + 1) rest <;> simp
          refine hrest.trans (ih.trans ⟨?_, ?_⟩)
          · rintro ⟨before, j', after, v', rfl, hbefore, hj', rfl⟩
            refine ⟨j :: before, j', after, v', rfl, List.forall_mem_cons.mpr ⟨⟨v, hj⟩, hbefore⟩,
              hj', ?_⟩
            rw [List.length_cons, Nat.add_assoc, Nat.add_comm 1]
          · rintro ⟨before, j', after, v', hsplit, hbefore, hj', rfl⟩
            cases before with
            | nil =>
                obtain ⟨rfl, rfl⟩ := List.cons.inj hsplit
                cases hj.symm.trans hj'
            | cons i before =>
                obtain ⟨rfl, rfl⟩ := List.cons.inj hsplit
                refine ⟨before, j', after, v', rfl, (List.forall_mem_cons.mp hbefore).2, hj', ?_⟩
                rw [List.length_cons, Nat.add_assoc, Nat.add_comm 1]

/-- Where items carry what their documents do, so does the whole value. -/
theorem carries_of_checkKind {kind : Kind} {limits : Limits}
    (hitem : ∀ {j : Json} {v : Value}, item j = .ok v → v.Carries j) {j : Json} {v : Value}
    (h : checkKind kind limits item j = .ok v) : v.Carries j := by
  unfold checkKind at h
  split at h
  · obtain rfl := Except.ok.inj h
    exact .bool _
  · split at h
    · obtain rfl := Except.ok.inj h
      exact .number _
    · cases h
  · split at h
    · obtain rfl := Except.ok.inj h
      exact .text _
    · cases h
  · rw [value_of_checkText h]
    exact .text _
  · rename_i items
    split at h
    · cases hitems : checkItems item 0 items with
      | error e => rw [hitems] at h; cases h
      | ok vs =>
          rw [hitems] at h
          obtain rfl : .list vs = v := Except.ok.inj h
          exact .list (length_checkItems hitems).symm fun k w i hw hi =>
            hitem (item_of_checkItems hitems k w i hw hi)
    · cases h
  · cases h

/-! ## Shapes -/

namespace Shape

/-- The check of a single item of a list. -/
def checkItem : Shape → Json → Except Violation Value
  | simple _ _ => checkUntyped
  | withItems _ _ items => items.check

/-- The documents that a list of this shape may hold. -/
def ItemConforms : Shape → Json → Prop
  | simple _ _ => Json.Plain
  | withItems _ _ items => items.Conforms

theorem check_eq (s : Shape) : s.check = checkKind s.kind s.limits s.checkItem := by
  cases s <;> rfl

variable {s : Shape}

theorem conforms_bool_iff {b : Bool} : s.Conforms (.bool b) ↔ s.kind = .boolean :=
  ⟨fun h => by cases h; assumption, .boolean⟩

theorem conforms_num_iff {n : Json.Number} :
    s.Conforms (.num n) ↔
      s.kind = .number ∧ s.limits.range.Encloses id (.finite n.toBinary64) :=
  ⟨fun h => by cases h; exact ⟨‹_›, ‹_›⟩, fun h => .number h.1 h.2⟩

theorem conforms_str_iff {t : String} :
    s.Conforms (.str t) ↔
      (s.kind = .enum ∧ t ∈ s.limits.allowed)
        ∨ (s.kind = .text ∧ s.limits.length.Encloses UInt64.toNat t.length ∧ s.limits.Finds t) := by
  constructor
  · intro h
    cases h with
    | enum hkind hallowed => exact Or.inl ⟨hkind, hallowed⟩
    | text hkind hlength hfinds => exact Or.inr ⟨hkind, hlength, hfinds⟩
  · rintro (⟨hkind, hallowed⟩ | ⟨hkind, hlength, hfinds⟩)
    · exact .enum hkind hallowed
    · exact .text hkind hlength hfinds

theorem conforms_arr_iff {items : List Json} :
    s.Conforms (.arr items) ↔
      s.kind = .list ∧ s.limits.length.Encloses UInt64.toNat items.length
        ∧ ∀ j ∈ items, s.ItemConforms j := by
  constructor
  · intro h
    cases h with
    | untyped hlength hitems => exact ⟨rfl, hlength, hitems⟩
    | typed hlength hitems => exact ⟨rfl, hlength, hitems⟩
  · rintro ⟨hkind, hlength, hitems⟩
    cases s with
    | simple kind limits =>
        obtain rfl : kind = .list := hkind
        exact .untyped hlength hitems
    | withItems kind limits inner =>
        obtain rfl : kind = .list := hkind
        exact .typed hlength hitems

theorem not_conforms_null : ¬ s.Conforms .null := nofun

theorem not_conforms_obj {ms : Json.Members} : ¬ s.Conforms (.obj ms) := nofun

/-- What a list holds decides about the whole document, kind by kind. -/
theorem exists_check_iff_of_items (hlimits : .nan ∉ s.limits.bounds)
    (hitem : ∀ j, (∃ v, s.checkItem j = .ok v) ↔ s.ItemConforms j) (j : Json) :
    (∃ v, s.check j = .ok v) ↔ s.Conforms j := by
  rw [check_eq]
  cases j with
  | null => cases hk : s.kind <;> simp [checkKind, not_conforms_null]
  | bool b => cases hk : s.kind <;> simp [checkKind, conforms_bool_iff, hk]
  | num n =>
      rw [conforms_num_iff, ← Limits.admitsNumber_iff hlimits]
      cases hk : s.kind <;> simp [checkKind]
      cases s.limits.range.admitsNumber n.toBinary64 <;> simp
  | str t =>
      rw [conforms_str_iff]
      cases hk : s.kind <;> simp [checkKind, checkText_eq_ok_iff]
      by_cases ht : t ∈ s.limits.allowed <;> simp [ht]
  | arr items =>
      simp only [conforms_arr_iff, ← hitem, ← Bounds.admits_iff]
      rw [← exists_checkItems_iff items (k := 0)]
      cases hk : s.kind <;> simp [checkKind]
      cases s.limits.length.admits items.length <;> cases checkItems s.checkItem 0 items <;>
        simp [Except.map]
  | obj ms => cases hk : s.kind <;> simp [checkKind, not_conforms_obj]

/-- **The check accepts exactly the conforming documents.** -/
theorem exists_check_iff : (s : Shape) → .nan ∉ s.bounds → (j : Json) →
    ((∃ v, s.check j = .ok v) ↔ s.Conforms j)
  | simple kind limits, hbounds, j =>
      exists_check_iff_of_items (s := simple kind limits) hbounds
        (fun _ => exists_checkUntyped_iff) j
  | withItems kind limits items, hbounds, j => by
      obtain ⟨hlimits, hitems⟩ := not_or.mp (List.mem_append.not.mp hbounds)
      exact exists_check_iff_of_items (s := withItems kind limits items) hlimits
        (exists_check_iff items hitems) j

/-- An accepted value holds what its document does. -/
theorem carries_of_check : (s : Shape) → {j : Json} → {v : Value} → s.check j = .ok v → v.Carries j
  | simple _ _, _, _, h =>
      carries_of_checkKind (fun hj => Value.carries_of_ofJson? (checkUntyped_eq_ok_iff.mp hj)) h
  | withItems _ _ items, _, _, h => carries_of_checkKind (carries_of_check items) h

end Shape

/-! ## Limits that matter -/

/-- The limits that concern a kind. -/
def Limits.relevant (l : Limits) : Kind → Limits
  | .boolean => {}
  | .number => { range := l.range }
  | .enum => { allowed := l.allowed }
  | .text => { length := l.length, pattern := l.pattern }
  | .list => { length := l.length }

namespace Shape

/-- The shape without the limits, and the shape of items, that do not concern its kind, at
every depth. -/
def relevant : Shape → Shape
  | simple kind limits => simple kind (limits.relevant kind)
  | withItems .list limits items => withItems .list (limits.relevant .list) items.relevant
  | withItems kind limits _ => simple kind (limits.relevant kind)

theorem checkKind_relevant (kind : Kind) (limits : Limits) (item : Json → Except Violation Value) :
    checkKind kind (limits.relevant kind) item = checkKind kind limits item := by
  funext j
  cases kind <;> cases j <;> rfl

/-- Only lists have items to check. -/
theorem checkKind_congr_item {kind : Kind} (hkind : kind ≠ .list) (limits : Limits)
    (item item' : Json → Except Violation Value) :
    checkKind kind limits item = checkKind kind limits item' := by
  funext j
  cases kind <;> cases j <;> first | rfl | exact absurd rfl hkind

/-- **Limits that do not concern the kind have no effect.** -/
theorem check_relevant : (s : Shape) → s.relevant.check = s.check
  | simple kind limits => checkKind_relevant kind limits checkUntyped
  | withItems kind limits items => by
      by_cases hkind : kind = .list
      · subst hkind
        show checkKind .list (limits.relevant .list) items.relevant.check
          = checkKind .list limits items.check
        rw [check_relevant items]
        exact checkKind_relevant .list limits items.check
      · have hsimple : (withItems kind limits items).relevant
            = simple kind (limits.relevant kind) := by
          cases kind <;> first | rfl | exact absurd rfl hkind
        rw [hsimple]
        exact (checkKind_relevant kind limits checkUntyped).trans
          (checkKind_congr_item hkind limits checkUntyped items.check)

/-! ## The item to blame -/

/-- What is wrong with a document as an item of a list of this shape. -/
inductive ItemViolation : Shape → Json → Violation → Prop where
  | typed {kind : Kind} {limits : Limits} {inner : Shape} {j : Json} {v : Violation} :
      inner.check j = .error v → ItemViolation (.withItems kind limits inner) j v
  | untyped {kind : Kind} {limits : Limits} {j : Json} :
      ¬ j.Plain → ItemViolation (.simple kind limits) j (.wrongKind .text j.typeName)

variable {s : Shape}

theorem exists_checkItem_iff (hbounds : .nan ∉ s.bounds) (j : Json) :
    (∃ v, s.checkItem j = .ok v) ↔ s.ItemConforms j := by
  cases s with
  | simple kind limits => exact exists_checkUntyped_iff
  | withItems kind limits items =>
      exact exists_check_iff items (fun h => hbounds (List.mem_append_right _ h)) j

theorem checkItem_eq_error_iff {j : Json} {v : Violation} :
    s.checkItem j = .error v ↔ s.ItemViolation j v := by
  cases s with
  | withItems kind limits items =>
      exact ⟨.typed, fun h => by cases h; assumption⟩
  | simple kind limits =>
      rw [checkItem, checkUntyped]
      have hplain := Value.exists_ofJson?_iff j
      cases hj : Value.ofJson? j with
      | some w =>
          refine ⟨fun h => ?_, fun h => ?_⟩
          · cases h
          · cases h with
            | untyped hnot => exact absurd (hplain.mp ⟨w, hj⟩) hnot
      | none =>
          have hnot : ¬ j.Plain := fun h => by
            obtain ⟨w, hw⟩ := hplain.mpr h
            cases hj.symm.trans hw
          refine ⟨fun h => ?_, fun h => by cases h; rfl⟩
          obtain rfl := Except.error.inj h
          exact .untyped hnot

/-- A list of admissible length is refused for its first item that does not conform. -/
theorem check_arr_eq_error_iff {items : List Json} (hbounds : .nan ∉ s.bounds)
    (hkind : s.kind = .list) (hlength : s.limits.length.Encloses UInt64.toNat items.length) {e : Violation} :
    s.check (.arr items) = .error e ↔
      ∃ before j after v, items = before ++ j :: after ∧ (∀ i ∈ before, s.ItemConforms i)
        ∧ s.ItemViolation j v ∧ e = .item before.length v := by
  have hitems : checkItems s.checkItem 0 items = .error e ↔ _ := checkItems_eq_error_iff items
  simp only [exists_checkItem_iff hbounds, checkItem_eq_error_iff, Nat.zero_add] at hitems
  rw [← hitems, check_eq, hkind, checkKind, if_pos (Bounds.admits_iff.mpr hlength)]
  cases checkItems s.checkItem 0 items <;> simp [Except.map]

end Shape

/-! ## Parameters -/

/-- **Validation accepts exactly the conforming documents.** The value holds what the
document does, limits that do not concern the kind count for nothing, and a list of
admissible length is refused for its first item that does not conform. -/
theorem Schema.validate_decided {s : Schema} (hbounds : .nan ∉ s.shape.bounds)
    (decorator : String) (j : Json) :
    ((∃ v, s.validate decorator j = .ok v) ↔ s.shape.Conforms j)
      ∧ (∀ v, s.validate decorator j = .ok v → v.Carries j)
      ∧ { s with shape := s.shape.relevant }.validate decorator j = s.validate decorator j
      ∧ ∀ items, j = .arr items → s.kind = .list →
          s.shape.limits.length.Encloses UInt64.toNat items.length →
          ∀ e, s.validate decorator j = .error e ↔
            ∃ before item after v, items = before ++ item :: after
              ∧ (∀ i ∈ before, s.shape.ItemConforms i) ∧ s.shape.ItemViolation item v
              ∧ e = ⟨decorator, s.name, .violation (.item before.length v)⟩ := by
  have hok : ∀ v, s.validate decorator j = .ok v ↔ s.shape.check j = .ok v := by
    intro v
    unfold validate
    cases s.shape.check j <;> simp
  have herror : ∀ e, s.validate decorator j = .error e ↔
      ∃ v, s.shape.check j = .error v ∧ e = ⟨decorator, s.name, .violation v⟩ := by
    intro e
    unfold validate
    cases s.shape.check j <;> simp [eq_comm]
  refine ⟨?_, ?_, ?_, ?_⟩
  · simp only [hok]
    exact s.shape.exists_check_iff hbounds j
  · intro v hv
    exact s.shape.carries_of_check ((hok v).mp hv)
  · simp only [validate, s.shape.check_relevant]
  · rintro items rfl hkind hlength e
    rw [herror]
    simp only [Shape.check_arr_eq_error_iff hbounds hkind hlength]
    constructor
    · rintro ⟨_, ⟨before, item, after, v, hsplit, hbefore, hv, rfl⟩, rfl⟩
      exact ⟨before, item, after, v, hsplit, hbefore, hv, rfl⟩
    · rintro ⟨before, item, after, v, hsplit, hbefore, hv, rfl⟩
      exact ⟨_, ⟨before, item, after, v, hsplit, hbefore, hv, rfl⟩, rfl⟩

/-- Lists of numbers that are not negative, the upper bound being infinite. -/
def Schema.shares : Schema where
  name := "shares"
  shape :=
    .withItems .list { length := ⟨some 1, none⟩ }
      (.simple .number { range := ⟨some (.finite .zero), some (.infinite false)⟩ })

/-- Half a share conforms, and half of one owed is to blame, although what follows it is no
number at all. -/
theorem Schema.validate_shares :
    .nan ∉ shares.shape.bounds
      ∧ shares.shape.Conforms (.arr [.num (.real .half)])
      ∧ shares.validate "Split" (.arr [.num (.real .half), .num (.real Binary64.half.negate), .null])
          = .error ⟨"Split", "shares", .violation (.item 1 (.outOfRange Binary64.half.negate
              ⟨some (.finite .zero), some (.infinite false)⟩))⟩ := by
  have hbounds : .nan ∉ shares.shape.bounds := by decide
  have hhalf : shares.shape.Conforms (.arr [.num (.real .half)]) :=
    (Schema.validate_decided hbounds "Split" _).1.mp
      ⟨.list [.number .half], by decide +kernel⟩
  have hblame := (Schema.validate_decided hbounds "Split"
    (.arr [.num (.real .half), .num (.real Binary64.half.negate), .null])).2.2.2 _ rfl rfl
    ⟨by rintro min ⟨⟩; decide, by rintro max ⟨⟩⟩
  refine ⟨hbounds, hhalf, (hblame _).mpr ⟨[.num (.real .half)], _, [.null], _, rfl, ?_,
    .typed (by decide +kernel), rfl⟩⟩
  rw [List.forall_mem_singleton]
  cases hhalf with
  | typed _ hitems => exact hitems _ List.mem_cons_self

/-- The blame goes to the first item that is no list of texts, and there to its own item. -/
example :
    Schema.validate
      { name := "rows", shape := .withItems .list {} (.withItems .list {} (.simple .text {})) }
      "Table" (.arr [.arr [.str "a"], .arr [.str "b", .null], .null])
    = .error ⟨"Table", "rows", .violation (.item 1 (.item 1 (.wrongKind .text "null")))⟩ := rfl

end Decorate
