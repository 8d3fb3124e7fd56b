import Decorate.Proofs.Conservation

/-!
# Requests for versions

A request for a version is served by numbers only, while what is
registered is ordered by tags as well. The two orders agree: within a
major, whatever stands above a version that serves a request serves it
too (`Version.serves_of_le`). So a request is answered by the highest
version of its major or not at all, and registering more definitions
can only raise the answer (`lookup_within_major`).

Tags are left out of account when a request is served, so the answer
can be a pre-release of the very version that is asked for. Nothing
else below the request is ever served (`lookup_not_below`).
-/

namespace Decorate

namespace Version

variable {v w requested : Version}

/-! ## The orders -/

/-- The numbers behind the major reach those that are asked for. -/
def Reaches (v requested : Version) : Prop :=
  requested.minor < v.minor ∨ requested.minor = v.minor ∧ requested.patch ≤ v.patch

instance (v requested : Version) : Decidable (v.Reaches requested) :=
  inferInstanceAs (Decidable (_ ∨ _))

/-- The version precedes the other, build metadata left aside. -/
def Below (v w : Version) : Prop := compareLex compareNumbers comparePre v w = .lt

instance (v w : Version) : Decidable (v.Below w) :=
  inferInstanceAs (Decidable (compareLex compareNumbers comparePre v w = .lt))

theorem serves_iff_reaches :
    v.serves requested = true ↔ v.major = requested.major ∧ v.Reaches requested := by
  simp only [serves, Reaches, Bool.and_eq_true, Bool.or_eq_true, beq_iff_eq, decide_eq_true_eq]

theorem compareNumbers_isLE_iff (h : v.major = w.major) :
    (compareNumbers v w).isLE = true ↔ w.Reaches v := by
  simp only [compareNumbers, compareLex, compareOn, Ordering.isLE_then_iff_or, h,
    Std.ReflOrd.compare_self, Std.compare_eq_lt, Std.compare_eq_iff_eq, Std.isLE_compare, Reaches,
    reduceCtorEq, false_or, true_and]

/-- What comes first in a comparison does not decrease. -/
theorem isLE_of_compareLex {c d : Version → Version → Ordering}
    (h : (compareLex c d v w).isLE = true) : (c v w).isLE = true := by
  rcases Ordering.isLE_then_iff_or.mp h with hlt | ⟨heq, -⟩
  · rw [hlt]
    rfl
  · rw [heq]
    rfl

/-- Leaving the build metadata aside turns no order around. -/
theorem precedence_isLE_of_le (h : v ≤ w) :
    (compareLex compareNumbers comparePre v w).isLE = true := by
  refine Ordering.isLE_then_iff_or.mpr ?_
  rcases Ordering.isLE_then_iff_or.mp h with hlt | ⟨heq, htags⟩
  · exact Or.inl hlt
  · exact Or.inr ⟨heq, isLE_of_compareLex htags⟩

/-- **What stands above a version that serves a request serves it too**, in the same major. -/
theorem serves_of_le (hserves : v.serves requested = true) (hmajor : w.major = v.major)
    (hle : v ≤ w) : w.serves requested = true := by
  obtain ⟨hv, hreaches⟩ := serves_iff_reaches.mp hserves
  have hw : w.major = requested.major := hmajor.trans hv
  refine serves_iff_reaches.mpr ⟨hw, (compareNumbers_isLE_iff hw.symm).mp ?_⟩
  exact Std.TransCmp.isLE_trans ((compareNumbers_isLE_iff hv.symm).mpr hreaches)
    (isLE_of_compareLex hle)

theorem compareNumbers_eq_iff :
    compareNumbers v w = .eq ↔ v.major = w.major ∧ v.minor = w.minor ∧ v.patch = w.patch := by
  simp only [compareNumbers, compareLex_eq_eq, compareOn, Std.compare_eq_iff_eq]

/-- Only a pre-release comes before another version of its numbers. -/
theorem pre_ne_nil_of_comparePre (h : comparePre v w = .lt) : v.pre ≠ [] := by
  intro hv
  simp only [comparePre, compareLex, compareOn, hv, List.isEmpty_nil] at h
  cases hw : w.pre <;> rw [hw] at h <;> nomatch h

/-- A version below the request that serves it is a pre-release of the one asked for. -/
theorem Below.of_serves (hbelow : v.Below requested) (hserves : v.serves requested = true) :
    v.major = requested.major ∧ v.minor = requested.minor ∧ v.patch = requested.patch
      ∧ v.pre ≠ [] := by
  obtain ⟨hmajor, hreaches⟩ := serves_iff_reaches.mp hserves
  have hle : (compareNumbers requested v).isLE = true :=
    (compareNumbers_isLE_iff hmajor.symm).mpr hreaches
  rcases Ordering.then_eq_lt.mp hbelow with hlt | ⟨heq, hpre⟩
  · rw [Std.OrientedCmp.gt_iff_lt.mpr hlt] at hle
    cases hle
  · obtain ⟨-, hminor, hpatch⟩ := compareNumbers_eq_iff.mp heq
    exact ⟨hmajor, hminor, hpatch, pre_ne_nil_of_comparePre hpre⟩

theorem Below.of_le (hle : v ≤ w) (hbelow : w.Below requested) : v.Below requested :=
  Std.TransCmp.lt_of_isLE_of_lt (precedence_isLE_of_le hle) hbelow

end Version

/-! ## The highest definition -/

theorem Definition.exists_highest {ds : List Definition} {p : Definition → Prop}
    (h : ∃ e ∈ ds, p e) : ∃ d, Definition.Highest ds p d := by
  induction ds with
  | nil =>
      obtain ⟨e, he, -⟩ := h
      cases he
  | cons a rest ih =>
      by_cases hrest : ∃ e ∈ rest, p e
      · obtain ⟨d, hd, hpd, hmax⟩ := ih hrest
        by_cases ha : p a ∧ d.version ≤ a.version
        · refine ⟨a, List.mem_cons_self, ha.1, fun e he hpe => ?_⟩
          rcases List.mem_cons.mp he with rfl | he
          · exact Version.le_refl _
          · exact Version.le_trans (hmax e he hpe) ha.2
        · refine ⟨d, List.mem_cons_of_mem _ hd, hpd, fun e he hpe => ?_⟩
          rcases List.mem_cons.mp he with rfl | he
          · exact (Version.le_total e.version d.version).resolve_right fun hle => ha ⟨hpe, hle⟩
          · exact hmax e he hpe
      · have hnone : ∀ e ∈ rest, ¬ p e := fun e he hpe => hrest ⟨e, he, hpe⟩
        obtain ⟨e, he, hpe⟩ := h
        obtain rfl : e = a := (List.mem_cons.mp he).resolve_right fun he => hnone e he hpe
        refine ⟨e, List.mem_cons_self, hpe, fun d hd hpd => ?_⟩
        rcases List.mem_cons.mp hd with rfl | hd
        · exact Version.le_refl _
        · exact absurd hpd (hnone d hd)

namespace Ledger

variable {l : Ledger} {name : String} {d e : Definition}

/-- Holds of the definitions of a name in one major. -/
def InMajor (name : String) (major : UInt64) (d : Definition) : Prop :=
  d.name.text = name ∧ d.version.major = major

/-- There is one highest version of a name. -/
theorem Distinct.highest_unique (h : l.Distinct) {p : Definition → Prop}
    (hname : ∀ {d}, p d → d.name.text = name) (hd : Definition.Highest l p d)
    (he : Definition.Highest l p e) : d = e := by
  refine h.eq_of_key_eq hd.1 he.1 (Prod.ext ?_ ?_)
  · exact (hname hd.2.1).trans (hname he.2.1).symm
  · exact Version.le_antisymm (he.2.2 d hd.1 hd.2.1) (hd.2.2 e he.1 he.2.1)

/-- **A request for a version is answered by the highest of its major, or not at all.** -/
theorem highest_answers_iff {v : Version} :
    Definition.Highest l (Answers name (some v)) d
      ↔ Definition.Highest l (InMajor name v.major) d ∧ d.version.Reaches v := by
  have hanswers : ∀ {e : Definition},
      Answers name (some v) e ↔ InMajor name v.major e ∧ e.version.Reaches v := by
    intro e
    simp only [Answers, InMajor, Option.mem_some_iff, forall_eq', Version.serves_iff_reaches,
      and_assoc]
  constructor
  · rintro ⟨hd, hp, hmax⟩
    obtain ⟨hmajor, hreaches⟩ := hanswers.mp hp
    refine ⟨⟨hd, hmajor, fun e he hmajor' => ?_⟩, hreaches⟩
    rcases Version.le_total e.version d.version with hle | hle
    · exact hle
    · refine hmax e he ⟨hmajor'.1, fun w hw => ?_⟩
      exact Version.serves_of_le (hp.2 w hw) (hmajor'.2.trans hmajor.2.symm) hle
  · rintro ⟨⟨hd, hmajor, hmax⟩, hreaches⟩
    exact ⟨hd, hanswers.mpr ⟨hmajor, hreaches⟩, fun e he hp => hmax e he (hanswers.mp hp).1⟩

/-! ## Registrations -/

theorem prefix_register (l : Ledger) (d : Definition) : l <+: (l.register d).1 := by
  unfold register
  split
  · exact List.prefix_refl l
  · exact List.prefix_append l [d]

theorem prefix_registerAll : ∀ (ds : List Definition) (l : Ledger), l <+: (l.registerAll ds).1
  | [], l => List.prefix_refl l
  | d :: rest, l => by
      have hd := prefix_register l d
      unfold registerAll
      cases hr : l.register d with
      | mk l' answer =>
          rw [hr] at hd
          cases answer with
          | ok _ => exact hd.trans (prefix_registerAll rest l')
          | error _ => exact hd

end Ledger

/-- The command registers definitions and removes none. -/
def Command.IsRegistration : Command → Prop
  | register _ | registerAll _ => True
  | unregister _ _ => False

namespace Ledger

/-- **Registrations keep what is registered**, refused or not. -/
theorem prefix_run : ∀ {cs : List Command}, (∀ c ∈ cs, c.IsRegistration) → ∀ l : Ledger,
    l <+: (Command.run Ledger.obey l cs).1
  | [], _, l => List.prefix_refl l
  | c :: rest, h, l => by
      obtain ⟨hc, hrest⟩ := List.forall_mem_cons.mp h
      have hstep : l <+: (l.obey c).1 := by
        cases c with
        | register d => exact prefix_register l d
        | registerAll ds => exact prefix_registerAll ds l
        | unregister name version => exact hc.elim
      exact hstep.trans (prefix_run hrest _)

end Ledger

/-! ## Answers -/

namespace Registry

variable {r : Registry}

/-- **Within a major a request is answered by one definition, and registering more raises the
answer.** Asked for a version, the registry answers with the highest definition of its major,
pre-releases and build metadata counted, if the numbers of that one reach those asked for, and
not at all otherwise. So two requests in a major that are both answered get the same definition.
Whatever is registered afterwards, what was answered stays answered, by a version that is not
lower. -/
theorem lookup_within_major (hr : r.Reachable) (name : String) :
    (∀ major, (∃ e ∈ r.toList, Ledger.InMajor name major e) →
        ∃ d, Definition.Highest r.toList (Ledger.InMajor name major) d)
      ∧ (∀ v d, r.lookup name (some v) = .ok d
          ↔ Definition.Highest r.toList (Ledger.InMajor name v.major) d ∧ d.version.Reaches v)
      ∧ (∀ v w d e, v.major = w.major → r.lookup name (some v) = .ok d →
          r.lookup name (some w) = .ok e → d = e)
      ∧ ∀ registrations : List Command, (∀ c ∈ registrations, c.IsRegistration) →
          ∀ request d, r.lookup name request = .ok d →
            ∃ e, (Command.run obey r registrations).1.lookup name request = .ok e
              ∧ d.version ≤ e.version := by
  obtain ⟨l, hl⟩ := hr.represents
  have hmajor : ∀ v d, r.lookup name (some v) = .ok d
      ↔ Definition.Highest l (Ledger.InMajor name v.major) d ∧ d.version.Reaches v :=
    fun v d => hl.lookup_eq_ok_iff.trans Ledger.highest_answers_iff
  rw [hl.toList_eq]
  refine ⟨fun major => Definition.exists_highest, hmajor, ?_, ?_⟩
  · intro v w d e hvw hd he
    have hhighest := ((hmajor w e).mp he).1
    rw [← hvw] at hhighest
    exact hl.distinct.highest_unique And.left ((hmajor v d).mp hd).1 hhighest
  · intro registrations hall request d hd
    obtain ⟨hdl, hanswers, -⟩ := hl.lookup_eq_ok_iff.mp hd
    -- what answered is still there, so the highest that answers is at least as high
    have hkept := (Ledger.prefix_run hall l).subset hdl
    obtain ⟨e, he⟩ := Definition.exists_highest ⟨d, hkept, hanswers⟩
    obtain ⟨-, hl'⟩ := Command.run_of_obey Represents.obey registrations hl
    exact ⟨e, hl'.lookup_eq_ok_iff.mpr he, he.2.2 d hkept hanswers⟩

/-- A version without tags. -/
def release (major minor patch : UInt64) : Version := { Version.zero with major, minor, patch }

def outlineAt (v : Version) : Definition := { Expansion.outline with version := v }

def alpha : Segment := ⟨['a', 'l', 'p', 'h', 'a'], by decide, by decide⟩

theorem canonical_alpha : [alpha].all (fun s => !s.hasLeadingZero) = true := by decide

/-- The version `1.3.0-alpha`. -/
def preview : Version := ⟨1, 3, 0, [alpha], [], canonical_alpha⟩

/-- `Outline` in two majors, with a pre-release on top of the lower one. -/
def outlines : List Definition :=
  [outlineAt (release 1 2 0), outlineAt preview, outlineAt (release 2 0 0)]

def outlineRegistry : Registry := (empty.registerAll outlines).1

theorem reachable_outlineRegistry : outlineRegistry.Reachable := ⟨[.registerAll outlines], rfl⟩

/-- The pre-release answers one request and the other is not answered. A refused registration
and that of the release leave an answer that is no lower. -/
theorem lookup_within_major_outline :
    ∃ e, outlineRegistry.Reachable
      ∧ outlineRegistry.lookup "Outline" (some (release 1 2 5)) = .ok (outlineAt preview)
      ∧ ¬ (∃ d, outlineRegistry.lookup "Outline" (some (release 1 3 1)) = .ok d)
      ∧ (Command.run obey outlineRegistry [.register (outlineAt (release 2 0 0)),
            .register (outlineAt (release 1 3 0))]).1.lookup "Outline" (some (release 1 2 5))
          = .ok e
      ∧ preview ≤ e.version := by
  obtain ⟨-, hiff, hsame, hgrow⟩ := lookup_within_major reachable_outlineRegistry "Outline"
  have hanswer : outlineRegistry.lookup "Outline" (some (release 1 2 5))
      = .ok (outlineAt preview) := rfl
  obtain ⟨e, he, hle⟩ := hgrow [.register (outlineAt (release 2 0 0)),
    .register (outlineAt (release 1 3 0))] (by simp [Command.IsRegistration]) _ _ hanswer
  refine ⟨e, reachable_outlineRegistry, hanswer, ?_, he, hle⟩
  rintro ⟨d, hd⟩
  -- the highest of the major is the one that answers the other request
  obtain rfl := hsame (release 1 2 5) (release 1 3 1) _ _ rfl hanswer hd
  exact absurd ((hiff _ _).mp hd).2 (by decide)

/-- **A request is served from below by its own pre-releases only**, and only if there is
nothing better: what answers a request for a version is not below it in precedence, unless it
is a pre-release with the numbers of the request and everything in that major is below the
request. -/
theorem lookup_not_below (hr : r.Reachable) {name : String} {v : Version} {d : Definition}
    (h : r.lookup name (some v) = .ok d) :
    ¬ d.version.Below v
      ∨ (d.version.major = v.major ∧ d.version.minor = v.minor ∧ d.version.patch = v.patch
          ∧ d.version.pre ≠ [])
        ∧ ∀ e ∈ r.toList, Ledger.InMajor name v.major e → e.version.Below v := by
  by_cases hbelow : d.version.Below v
  · obtain ⟨l, hl⟩ := hr.represents
    have hanswers := hl.lookup_eq_ok_iff.mp h
    refine Or.inr ⟨hbelow.of_serves (hanswers.2.1.2 v rfl), fun e he hmajor => ?_⟩
    rw [hl.toList_eq] at he
    have hle := (Ledger.highest_answers_iff.mp hanswers).1.2.2 e he hmajor
    exact Version.Below.of_le hle hbelow
  · exact Or.inl hbelow

/-- The pre-release is served, as nothing in its major reaches the request. -/
theorem lookup_not_below_outline :
    outlineRegistry.Reachable
      ∧ outlineRegistry.lookup "Outline" (some (release 1 3 0)) = .ok (outlineAt preview)
      ∧ ∀ e ∈ outlineRegistry.toList, Ledger.InMajor "Outline" 1 e →
          e.version.Below (release 1 3 0) := by
  have hanswer : outlineRegistry.lookup "Outline" (some (release 1 3 0))
      = .ok (outlineAt preview) := rfl
  refine ⟨reachable_outlineRegistry, hanswer, ?_⟩
  rcases lookup_not_below reachable_outlineRegistry hanswer with hnot | ⟨-, hall⟩
  · exact absurd (by decide) hnot
  · exact hall

/-- A request that is served by a version below it. -/
theorem lookup_below :
    ∃ d, outlineRegistry.Reachable
      ∧ outlineRegistry.lookup "Outline" (some (release 1 3 0)) = .ok d
      ∧ d.version.Below (release 1 3 0) :=
  ⟨outlineAt preview, reachable_outlineRegistry, rfl, by decide⟩

end Registry

end Decorate
