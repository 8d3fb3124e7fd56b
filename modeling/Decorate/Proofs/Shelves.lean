import Decorate.Registry

/-!
# Shelves

A shelf in strictly ascending order of version is determined by the
definitions on it (`Shelf.Ordered.ext`), holds at most one of each
version, and stays in order when a version is put on it that it does
not have. What is found on it is then told by membership alone
(`Shelf.find?_eq_some_iff`, `Shelf.Ordered.last_find?_eq_some_iff`).
-/

namespace Decorate

namespace Version

theorem le_refl (v : Version) : v ≤ v := not_lt.mp (lt_irrefl v)

theorem le_of_lt {v w : Version} (h : v < w) : v ≤ w :=
  not_lt.mp fun h' => lt_irrefl v (lt_trans h h')

theorem le_antisymm {v w : Version} (hvw : v ≤ w) (hwv : w ≤ v) : v = w := by
  rcases lt_or_eq_or_gt v w with h | h | h
  · exact absurd h (not_lt.mpr hwv)
  · exact h
  · exact absurd h (not_lt.mpr hvw)

theorem le_total (v w : Version) : v ≤ w ∨ w ≤ v := by
  rcases lt_or_eq_or_gt v w with h | rfl | h
  · exact Or.inl (le_of_lt h)
  · exact Or.inl (le_refl v)
  · exact Or.inr (le_of_lt h)

theorem lt_of_le_of_ne {v w : Version} (h : v ≤ w) (hne : v ≠ w) : v < w := by
  rcases lt_or_eq_or_gt v w with h' | h' | h'
  · exact h'
  · exact absurd h' hne
  · exact absurd h' (not_lt.mpr h)

end Version

/-- The definition is the one of the highest version among those of a list that qualify. -/
def Definition.Highest (ds : List Definition) (p : Definition → Prop) (d : Definition) : Prop :=
  d ∈ ds ∧ p d ∧ ∀ e ∈ ds, p e → e.version ≤ d.version

namespace Shelf

variable {s t : Shelf} {d e : Definition} {v : Version}

/-- In strictly ascending order of version. -/
def Ordered (s : Shelf) : Prop := s.Pairwise fun d e => d.version < e.version

theorem Ordered.eq_of_version_eq (h : s.Ordered) (hd : d ∈ s) (he : e ∈ s)
    (heq : d.version = e.version) : d = e := by
  induction s with
  | nil => cases hd
  | cons a rest ih =>
      obtain ⟨ha, hrest⟩ := List.pairwise_cons.mp h
      rcases List.mem_cons.mp hd with rfl | hd' <;> rcases List.mem_cons.mp he with rfl | he'
      · rfl
      · exact absurd (heq ▸ ha e he') (Version.lt_irrefl _)
      · exact absurd (heq ▸ ha d hd') (Version.lt_irrefl _)
      · exact ih hrest hd' he'

theorem Ordered.nodup (h : s.Ordered) : s.Nodup := by
  refine h.imp ?_
  rintro a b hlt rfl
  exact Version.lt_irrefl _ hlt

/-- Shelves in order that hold the same definitions are equal. -/
theorem Ordered.ext (hs : s.Ordered) (ht : t.Ordered) (h : ∀ d, d ∈ s ↔ d ∈ t) : s = t := by
  have hperm : s.Perm t := (List.perm_ext_iff_of_nodup hs.nodup ht.nodup).mpr h
  refine List.Perm.eq_of_pairwise ?_ hs ht hperm
  intro a b _ _ hab hba
  exact absurd (Version.lt_trans hab hba) (Version.lt_irrefl _)

/-! ## Insertion -/

theorem mem_insert : ∀ {s : Shelf}, e ∈ Shelf.insert d s ↔ e = d ∨ e ∈ s
  | [] => by simp [Shelf.insert]
  | a :: rest => by
      unfold Shelf.insert
      split
      · exact List.mem_cons
      · rw [List.mem_cons, mem_insert, List.mem_cons]
        exact or_left_comm

theorem Ordered.insert :
    ∀ {s : Shelf}, s.Ordered → (∀ e ∈ s, e.version ≠ d.version) → (Shelf.insert d s).Ordered
  | [], _, _ => List.pairwise_singleton _ _
  | a :: rest, h, hfresh => by
      obtain ⟨ha, hrest⟩ := List.pairwise_cons.mp h
      obtain ⟨hne, hfresh⟩ := List.forall_mem_cons.mp hfresh
      unfold Shelf.insert
      split
      · rename_i hlt
        refine List.pairwise_cons.mpr ⟨?_, h⟩
        intro e he
        rcases List.mem_cons.mp he with rfl | he
        · exact hlt
        · exact Version.lt_trans hlt (ha e he)
      · rename_i hlt
        refine List.pairwise_cons.mpr ⟨?_, Ordered.insert hrest hfresh⟩
        intro e he
        rcases mem_insert.mp he with rfl | he
        · exact Version.lt_of_le_of_ne (Version.not_lt.mp hlt) hne
        · exact ha e he

/-! ## What is found -/

theorem find?_eq_some_iff (h : s.Ordered) :
    Shelf.find? s v = some d ↔ d ∈ s ∧ d.version = v := by
  constructor
  · intro hd
    exact ⟨List.mem_of_find?_eq_some hd, by simpa using List.find?_some hd⟩
  · rintro ⟨hd, rfl⟩
    cases hf : Shelf.find? s d.version with
    | none => exact absurd (List.find?_eq_none.mp hf d hd) (by simp)
    | some e =>
        have he : e.version = d.version := by simpa using List.find?_some hf
        rw [h.eq_of_version_eq (List.mem_of_find?_eq_some hf) hd he]

/-- The last definition that qualifies is the highest one that does. -/
theorem Ordered.last_find?_eq_some_iff (h : s.Ordered) {p : Definition → Bool} :
    s.reverse.find? p = some d ↔ Definition.Highest s (p · = true) d := by
  have hhighest : ∀ {e}, s.reverse.find? p = some e → Definition.Highest s (p · = true) e := by
    intro e he
    obtain ⟨hp, before, after, hsplit, hbefore⟩ := List.find?_eq_some_iff_append.mp he
    have hs : s = after.reverse ++ e :: before.reverse := by
      rw [← List.reverse_reverse s, hsplit]
      simp
    refine ⟨by simp [hs], hp, fun a ha hpa => ?_⟩
    rw [hs] at ha h
    obtain ⟨-, -, hcross⟩ := List.pairwise_append.mp h
    rcases List.mem_append.mp ha with ha | ha
    · exact Version.le_of_lt (hcross a ha e List.mem_cons_self)
    · rcases List.mem_cons.mp ha with rfl | ha
      · exact Version.le_refl _
      · have hnot := hbefore a (List.mem_reverse.mp ha)
        rw [hpa] at hnot
        cases hnot
  refine ⟨hhighest, ?_⟩
  rintro ⟨hd, hpd, hmax⟩
  cases hf : s.reverse.find? p with
  | none => exact absurd hpd (List.find?_eq_none.mp hf d (List.mem_reverse.mpr hd))
  | some e =>
      obtain ⟨he, hpe, hmax'⟩ := hhighest hf
      rw [h.eq_of_version_eq he hd (Version.le_antisymm (hmax e he hpe) (hmax' d hd hpd))]

theorem Ordered.serving?_eq_some_iff (h : s.Ordered) :
    s.serving? v = some d ↔ Definition.Highest s (fun e => e.version.serves v = true) d :=
  h.last_find?_eq_some_iff

theorem Ordered.getLast?_eq_some_iff (h : s.Ordered) :
    s.getLast? = some d ↔ Definition.Highest s (fun _ => True) d := by
  have hlast : s.getLast? = s.reverse.find? fun _ => true := by
    rw [List.getLast?_eq_head?_reverse]
    cases s.reverse <;> rfl
  rw [hlast, h.last_find?_eq_some_iff]
  simp only [Definition.Highest]

theorem Ordered.answer?_eq_some_iff (h : s.Ordered) {request : Option Version} :
    s.answer? request = some d
      ↔ Definition.Highest s (fun e => ∀ v ∈ request, e.version.serves v = true) d := by
  cases request with
  | none =>
      rw [answer?, h.getLast?_eq_some_iff]
      simp only [Definition.Highest, Option.not_mem_none, false_implies, implies_true]
  | some v =>
      rw [answer?, h.serving?_eq_some_iff]
      simp only [Definition.Highest, Option.mem_some_iff, forall_eq']

theorem answer?_eq_none_iff {request : Option Version} :
    s.answer? request = none ↔ ∀ e ∈ s, ∃ v ∈ request, e.version.serves v = false := by
  cases request with
  | none => simp [answer?, List.eq_nil_iff_forall_not_mem]
  | some v => simp [answer?, serving?]

theorem ascending_versions (h : s.Ordered) : s.versions.Pairwise (· < ·) :=
  List.pairwise_map.mpr h

/-! ## What is removed -/

theorem Ordered.removed? (h : s.Ordered) {version : Option Version} {gone : List Definition}
    (hgone : s.removed? version = some gone) :
    Ordered gone ∧ ∀ d, d ∈ gone ↔ d ∈ s ∧ version.all (· == d.version) = true := by
  cases version with
  | none =>
      obtain rfl := Option.some.inj hgone
      exact ⟨h, fun d => (and_iff_left rfl).symm⟩
  | some v =>
      obtain ⟨e, he, rfl⟩ := Option.map_eq_some_iff.mp hgone
      refine ⟨List.pairwise_singleton _ _, fun d => ?_⟩
      rw [List.mem_singleton, Option.all_some, beq_iff_eq, eq_comm (a := v),
        ← find?_eq_some_iff h, he, Option.some.injEq, eq_comm]

/-- A removal that fails asks for a version that is not there. -/
theorem lacks_of_removed?_eq_none {version : Option Version} (h : s.removed? version = none) :
    ∀ d ∈ s, version.all (· == d.version) = false := by
  cases version with
  | none => cases h
  | some v =>
      intro d hd
      have hlacks := List.find?_eq_none.mp (Option.map_eq_none_iff.mp h) d hd
      rw [Option.all_some, Bool.eq_false_iff, ne_eq, beq_iff_eq]
      rintro rfl
      exact hlacks (beq_self_eq_true _)

/-- A removal that succeeds takes something, unless the shelf was empty. -/
theorem ne_nil_of_removed? (hs : s ≠ []) {version : Option Version} {gone : List Definition}
    (h : s.removed? version = some gone) : gone ≠ [] := by
  cases version with
  | none => exact Option.some.inj h ▸ hs
  | some v =>
      obtain ⟨e, -, rfl⟩ := Option.map_eq_some_iff.mp h
      exact List.cons_ne_nil e []

end Shelf

end Decorate
