import Decorate.Plan.Layout
import Decorate.Proofs.Gating
import Mathlib.Data.List.Induction

/-!
# What a composed prompt is made of

`render_of_ofRequest` describes the output of a plan without the loop
that produces it. Either one step takes the place of the prompt, and its
text is the output; or the output has three parts, of which the outer
two are the texts of one placement each, `merged`: every accumulating
text in its order, and for all the overriding texts together the last of
them at the place of the first.

The loop adds the steps one by one to a `Draft`. Its invariant
(`Draft.Holds`) says what the two buckets hold after some of the steps,
the remembered index among it; one step keeps it (`Draft.Holds.add`), so
it holds of the whole plan (`Draft.holds_ofSteps`).
-/

namespace Decorate

/-! ## Merging -/

/-- The texts that one place of the prompt is given, with how each combines. -/
abbrev Entries := List (Behavior × String)

namespace Entries

def accumulated (entries : Entries) : List String :=
  (entries.filter fun e => e.1 = .accumulate).map Prod.snd

def overriding (entries : Entries) : List String :=
  (entries.filter fun e => e.1 = .override).map Prod.snd

/-- The accumulating texts in order. The overriding ones share the place of the first of
them, where the last one stands. -/
def merged : Entries → List String
  | [] => []
  | (.accumulate, text) :: rest => text :: merged rest
  | (.override, text) :: rest => (overriding rest).getLastD text :: accumulated rest

/-- Where the shared entry stands, if there is one. -/
def place? (entries : Entries) : Option Nat := entries.findIdx? fun e => e.1 = .override

theorem accumulated_append (xs ys : Entries) :
    accumulated (xs ++ ys) = accumulated xs ++ accumulated ys := by
  simp [accumulated]

theorem overriding_append (xs ys : Entries) :
    overriding (xs ++ ys) = overriding xs ++ overriding ys := by
  simp [overriding]

/-- Without overriding texts nothing is merged. -/
theorem merged_of_place?_eq_none : ∀ {entries : Entries}, entries.place? = none →
    merged entries = entries.map Prod.snd
  | [], _ => rfl
  | (.accumulate, text) :: rest, h => by
      have hrest : place? rest = none := by simpa [place?, List.findIdx?_cons] using h
      rw [merged, merged_of_place?_eq_none hrest, List.map_cons]
  | (.override, text) :: rest, h => by simp [place?, List.findIdx?_cons] at h

/-- The shared entry stands inside the merged texts. -/
theorem lt_length_merged : ∀ {entries : Entries} {k : Nat}, entries.place? = some k →
    k < (merged entries).length
  | (.accumulate, text) :: rest, k, h => by
      obtain ⟨k', hk', rfl⟩ : ∃ k', place? rest = some k' ∧ k' + 1 = k := by
        simpa [place?, List.findIdx?_cons] using h
      rw [merged, List.length_cons]
      exact Nat.succ_lt_succ (lt_length_merged hk')
  | (.override, text) :: rest, k, h => by
      obtain rfl : 0 = k := by simpa [place?, List.findIdx?_cons] using h
      rw [merged, List.length_cons]
      exact Nat.succ_pos _

theorem merged_append_accumulate (text : String) : ∀ entries : Entries,
    merged (entries ++ [(.accumulate, text)]) = merged entries ++ [text]
  | [] => rfl
  | (.accumulate, _) :: rest => by
      rw [List.cons_append, merged, merged, merged_append_accumulate text rest, List.cons_append]
  | (.override, _) :: rest => by
      rw [List.cons_append, merged, merged, accumulated_append, overriding_append]
      simp [accumulated, overriding]

/-- A further overriding text takes the shared entry over, or opens it. -/
theorem merged_append_override (text : String) : ∀ entries : Entries,
    merged (entries ++ [(.override, text)])
      = match entries.place? with
        | some k => (merged entries).set k text
        | none => merged entries ++ [text]
  | [] => rfl
  | (.accumulate, first) :: rest => by
      have hplace : place? ((.accumulate, first) :: rest) = (place? rest).map (· + 1) := by
        simp [place?, List.findIdx?_cons]
      rw [List.cons_append, merged, merged, merged_append_override text rest, hplace]
      cases place? rest <;> rfl
  | (.override, first) :: rest => by
      have hplace : place? ((.override, first) :: rest) = some 0 := by
        simp [place?, List.findIdx?_cons]
      rw [List.cons_append, merged, merged, hplace, accumulated_append, overriding_append]
      simp [accumulated, overriding]

/-- Merging neither loses nor repeats nor moves an accumulating text. -/
theorem accumulated_sublist_merged : ∀ entries : Entries,
    (accumulated entries).Sublist (merged entries)
      ∧ (merged entries).length
          = (accumulated entries).length + if overriding entries = [] then 0 else 1
  | [] => ⟨.slnil, rfl⟩
  | (.accumulate, text) :: rest => by
      obtain ⟨hsub, hlength⟩ := accumulated_sublist_merged rest
      have hacc : accumulated ((.accumulate, text) :: rest) = text :: accumulated rest := by
        simp [accumulated]
      have hover : overriding ((.accumulate, text) :: rest) = overriding rest := by
        simp [overriding]
      rw [hacc, hover, merged, List.length_cons, List.length_cons, hlength]
      exact ⟨hsub.cons_cons text, by omega⟩
  | (.override, text) :: rest => by
      have hacc : accumulated ((.override, text) :: rest) = accumulated rest := by
        simp [accumulated]
      have hover : overriding ((.override, text) :: rest) ≠ [] := by simp [overriding]
      rw [hacc, if_neg hover, merged, List.length_cons]
      exact ⟨(List.Sublist.refl _).cons _, rfl⟩

end Entries

/-! ## Buckets -/

/-- The bucket holds what the entries come to. -/
structure Bucket.Holds (b : Bucket) (entries : Entries) : Prop where
  texts : b.texts = entries.merged
  slot : b.slot = entries.place?

namespace Bucket.Holds

variable {b : Bucket} {entries : Entries}

theorem empty : Bucket.empty.Holds [] := ⟨rfl, rfl⟩

theorem wellFormed (h : b.Holds entries) : b.WellFormed := by
  intro index hindex
  rw [h.texts]
  exact Entries.lt_length_merged (h.slot ▸ hindex)

theorem add (h : b.Holds entries) (behavior : Behavior) (text : String) :
    (b.add behavior text).Holds (entries ++ [(behavior, text)]) := by
  obtain ⟨htexts, hslot⟩ := h
  cases behavior with
  | accumulate =>
      refine ⟨?_, ?_⟩
      · rw [Entries.merged_append_accumulate, ← htexts]
        rfl
      · have hplace : Entries.place? (entries ++ [(.accumulate, text)]) = entries.place? := by
          simp [Entries.place?, List.findIdx?_append, List.findIdx?_cons]
        rw [hplace, ← hslot]
        rfl
  | override =>
      have hmerged := Entries.merged_append_override text entries
      unfold Bucket.add
      cases hplace : entries.place? with
      | some k =>
          rw [hplace] at hmerged hslot
          refine ⟨?_, ?_⟩
          · rw [hmerged, ← htexts, hslot]
          · rw [hslot, Entries.place?, List.findIdx?_append, ← Entries.place?, hplace]
            rfl
      | none =>
          rw [hplace] at hmerged hslot
          refine ⟨?_, ?_⟩
          · rw [hmerged, ← htexts, hslot]
          · have hlength : b.texts.length = entries.length := by
              rw [htexts, Entries.merged_of_place?_eq_none hplace, List.length_map]
            rw [hslot, Entries.place?, List.findIdx?_append, ← Entries.place?, hplace]
            simp [List.findIdx?_cons, hlength]

end Bucket.Holds

/-! ## Drafts -/

namespace Plan

/-- What a placement is given: the texts of its steps that are not blank. -/
def entriesAt (placement : Placement) (steps : List Step) : Entries :=
  ((steps.filter fun s => s.placement = placement).map fun s => (s.behavior, s.render)).filter
    fun e => !Text.isBlank e.2

/-- The texts for the whole prompt that are not blank. -/
def replacements (steps : List Step) : List String :=
  ((steps.filter fun s => Replaces s).map Step.render).filter fun text => !Text.isBlank text

theorem entriesAt_concat {placement : Placement} {s : Step} (steps : List Step)
    (hp : s.placement = placement) (hb : Text.isBlank s.render = false) :
    entriesAt placement (steps ++ [s]) = entriesAt placement steps ++ [(s.behavior, s.render)] := by
  simp [entriesAt, hp, hb]

theorem entriesAt_concat_of_not {placement : Placement} {s : Step} (steps : List Step)
    (h : s.placement ≠ placement ∨ Text.isBlank s.render = true) :
    entriesAt placement (steps ++ [s]) = entriesAt placement steps := by
  rcases h with h | h <;> by_cases hp : s.placement = placement <;> simp_all [entriesAt]

theorem replacements_concat {s : Step} (steps : List Step) (hr : Replaces s)
    (hb : Text.isBlank s.render = false) :
    replacements (steps ++ [s]) = replacements steps ++ [s.render] := by
  simp [replacements, hr, hb]

theorem replacements_concat_of_not {s : Step} (steps : List Step)
    (h : ¬ Replaces s ∨ Text.isBlank s.render = true) :
    replacements (steps ++ [s]) = replacements steps := by
  rcases h with h | h <;> by_cases hr : Replaces s <;> simp_all [replacements]

theorem mem_replacements {steps : List Step} {text : String} :
    text ∈ replacements steps ↔
      ∃ s ∈ steps, Replaces s ∧ s.render = text ∧ Text.isBlank text = false := by
  simp only [replacements, List.mem_filter, List.mem_map, decide_eq_true_eq, Bool.not_eq_true']
  constructor
  · rintro ⟨⟨s, ⟨hs, hr⟩, rfl⟩, hb⟩
    exact ⟨s, hs, hr, rfl, hb⟩
  · rintro ⟨s, hs, hr, rfl, hb⟩
    exact ⟨⟨s, ⟨hs, hr⟩, rfl⟩, hb⟩

end Plan

/-- The draft holds what the steps come to. -/
structure Draft.Holds (d : Draft) (steps : List Step) : Prop where
  before : d.before.Holds (Plan.entriesAt .prepend steps)
  after : d.after.Holds (Plan.entriesAt .append steps)
  replacement : d.replacement = (Plan.replacements steps).getLast?

namespace Draft

theorem Holds.add {d : Draft} {steps : List Step} (h : d.Holds steps) (s : Step) :
    (d.add s).Holds (steps ++ [s]) := by
  obtain ⟨hbefore, hafter, hreplacement⟩ := h
  unfold Draft.add
  simp only
  cases hb : Text.isBlank s.render with
  | true =>
      have hsame (placement : Placement) :
          Plan.entriesAt placement (steps ++ [s]) = Plan.entriesAt placement steps :=
        Plan.entriesAt_concat_of_not steps (.inr hb)
      rw [if_pos rfl]
      exact ⟨hsame .prepend ▸ hbefore, hsame .append ▸ hafter,
        Plan.replacements_concat_of_not steps (.inr hb) ▸ hreplacement⟩
  | false =>
      have hother (placement : Placement) (hne : s.placement ≠ placement) :
          Plan.entriesAt placement (steps ++ [s]) = Plan.entriesAt placement steps :=
        Plan.entriesAt_concat_of_not steps (.inl hne)
      rw [if_neg Bool.false_ne_true]
      cases hp : s.placement with
      | prepend =>
          have hr : ¬ Plan.Replaces s := by simp [Plan.Replaces, hp]
          exact ⟨Plan.entriesAt_concat steps hp hb ▸ hbefore.add s.behavior s.render,
            hother .append (by simp [hp]) ▸ hafter,
            Plan.replacements_concat_of_not steps (.inl hr) ▸ hreplacement⟩
      | append =>
          have hr : ¬ Plan.Replaces s := by simp [Plan.Replaces, hp]
          exact ⟨hother .prepend (by simp [hp]) ▸ hbefore,
            Plan.entriesAt_concat steps hp hb ▸ hafter.add s.behavior s.render,
            Plan.replacements_concat_of_not steps (.inl hr) ▸ hreplacement⟩
      | override | replace =>
          have hr : Plan.Replaces s := by simp [Plan.Replaces, hp]
          exact ⟨hother .prepend (by simp [hp]) ▸ hbefore, hother .append (by simp [hp]) ▸ hafter,
            by rw [Plan.replacements_concat steps hr hb, List.getLast?_concat]⟩

theorem ofSteps_append_singleton (steps : List Step) (s : Step) :
    ofSteps (steps ++ [s]) = (ofSteps steps).add s := by
  simp only [ofSteps, List.foldl_append, List.foldl_cons, List.foldl_nil]

/-- **What the loop has gathered after any steps.** -/
theorem holds_ofSteps (steps : List Step) : (ofSteps steps).Holds steps := by
  induction steps using List.reverseRecOn with
  | nil => exact ⟨.empty, .empty, rfl⟩
  | append_singleton steps s ih =>
      rw [ofSteps_append_singleton]
      exact ih.add s

end Draft

/-! ## Plans -/

namespace Plan

/-- An accepted request has at most one step that takes the place of the prompt. -/
theorem countP_replaces_le_one {registry : Registry} {config : Config} {request : List Instance}
    {plan : Plan} (h : ofRequest registry config request = .ok plan) :
    plan.steps.countP (fun s => Replaces s) ≤ 1 := by
  unfold ofRequest at h
  simp only [bind, Except.bind, pure, Except.pure] at h
  split at h
  · cases h
  · rename_i standard _
    split at h
    · cases h
    · rename_i steps _
      split at h
      · cases h
      · rename_i u hcheck
        obtain rfl : ⟨standard, steps⟩ = plan := Except.ok.inj h
        exact ((decides_check config standard request steps).accepts.mp hcheck).single

/-- The only text for the whole prompt is that of the step that takes its place. -/
theorem replacements_eq_singleton {steps : List Step}
    (hsingle : steps.countP (fun s => Replaces s) ≤ 1) {s : Step} (hs : s ∈ steps)
    (hr : Replaces s) (hb : Text.isBlank s.render = false) : replacements steps = [s.render] := by
  have hmem : s.render ∈ replacements steps := mem_replacements.mpr ⟨s, hs, hr, rfl, hb⟩
  have hlength : (replacements steps).length ≤ 1 := by
    refine Nat.le_trans (List.length_filter_le _ _) ?_
    rw [List.length_map, ← List.countP_eq_length_filter]
    exact hsingle
  match hreplacements : replacements steps with
  | [] => simp [hreplacements] at hmem
  | [text] => rw [hreplacements, List.mem_singleton] at hmem; rw [hmem]
  | _ :: _ :: _ => simp [hreplacements] at hlength

/-- **The layout of a composed prompt.** A step that takes the place of the prompt gives the
whole output, unless its text is blank. Otherwise the output is what the placements before
and after the prompt come to, around the base prompt. Merging the texts of a placement keeps
all that accumulate, and the index of the entry that the others share is never out of
range. -/
theorem render_of_ofRequest {registry : Registry} {config : Config} {request : List Instance}
    {plan : Plan} (h : ofRequest registry config request = .ok plan) (base : String) :
    (∀ s ∈ plan.steps, Replaces s → Text.isBlank s.render = false →
        plan.render base = s.render)
      ∧ ((∀ s ∈ plan.steps, Replaces s → Text.isBlank s.render = true) →
          plan.render base
            = Text.join "\n\n" ((entriesAt .prepend plan.steps).merged
                ++ (if Text.isBlank base then [] else [base])
                ++ (entriesAt .append plan.steps).merged))
      ∧ (∀ placement, ∀ entries, entries = entriesAt placement plan.steps →
          entries.accumulated.Sublist entries.merged
            ∧ entries.merged.length
                = entries.accumulated.length + if entries.overriding = [] then 0 else 1)
      ∧ ∀ steps, steps <+: plan.steps →
          (Draft.ofSteps steps).before.WellFormed ∧ (Draft.ofSteps steps).after.WellFormed := by
  obtain ⟨hbefore, hafter, hreplacement⟩ := Draft.holds_ofSteps plan.steps
  refine ⟨fun s hs hr hb => ?_, fun hblank => ?_,
    fun _ entries _ => entries.accumulated_sublist_merged, fun steps _ => ?_⟩
  · rw [replacements_eq_singleton (countP_replaces_le_one h) hs hr hb] at hreplacement
    simp only [Plan.render, Draft.finish, hreplacement, List.getLast?_singleton]
  · have hnone : replacements plan.steps = [] := by
      refine List.eq_nil_iff_forall_not_mem.mpr fun text hmem => ?_
      obtain ⟨s, hs, hr, rfl, hb⟩ := mem_replacements.mp hmem
      rw [hblank s hs hr] at hb
      cases hb
    rw [hnone] at hreplacement
    simp only [Plan.render, Draft.finish, hreplacement, List.getLast?_nil, hbefore.texts,
      hafter.texts]
    rfl
  · obtain ⟨hbefore, hafter, -⟩ := Draft.holds_ofSteps steps
    exact ⟨hbefore.wellFormed, hafter.wellFormed⟩

theorem declared_nil (name : Name) : parametersFault? name.text [] [] = none := rfl

theorem consistent_empty (name : Name) : Compatibility.Consistent name {} := ⟨rfl, rfl, rfl⟩

/-- An instruction without parameters. -/
def note (name : Name) (text : String) (placement : Placement) (behavior : Behavior) :
    Instance where
  definition :=
    { name, version := .one, category := "note", description := none, parameters := [],
      template := { instruction := text, placement, behavior }, compatibility := {},
      declared := declared_nil name, mapped := rfl, consistent := consistent_empty name }
  bindings := .empty

/-- Two notes that override each other, with others between and after them. -/
def notes : List Instance :=
  [note ⟨"Opening", rfl⟩ "Greet." .prepend .accumulate,
   note ⟨"Manner", rfl⟩ "Be formal." .prepend .override,
   note ⟨"Length", rfl⟩ "Be brief." .prepend .accumulate,
   note ⟨"Blank", rfl⟩ " " .replace .accumulate,
   note ⟨"Closing", rfl⟩ "Sign." .append .override,
   note ⟨"Voice", rfl⟩ "Be friendly." .prepend .override]

/-- The friendly voice stands where the formal tone came; a text for the whole prompt makes
all else disappear. -/
theorem render_notes :
    (∃ plan, ofRequest .empty {} notes = .ok plan
        ∧ plan.render "Why?" = "Greet.\n\nBe friendly.\n\nBe brief.\n\nWhy?\n\nSign.")
      ∧ ∃ plan, ofRequest .empty {} (note ⟨"Whole", rfl⟩ "Stop." .override .override :: notes.take 3)
            = .ok plan
          ∧ plan.render "Why?" = "Stop." := by
  obtain ⟨layered, hlayered, hblank, hbefore, hafter⟩ : ∃ plan, ofRequest .empty {} notes = .ok plan
      ∧ (∀ s ∈ plan.steps, Replaces s → Text.isBlank s.render = true)
      ∧ (entriesAt .prepend plan.steps).merged = ["Greet.", "Be friendly.", "Be brief."]
      ∧ (entriesAt .append plan.steps).merged = ["Sign."] :=
    ⟨_, rfl, by decide +kernel, by decide +kernel, by decide +kernel⟩
  obtain ⟨whole, hwhole, step, hstep, hreplaces, htext⟩ : ∃ plan,
      ofRequest .empty {} (note ⟨"Whole", rfl⟩ "Stop." .override .override :: notes.take 3)
        = .ok plan ∧ ∃ s ∈ plan.steps, Replaces s ∧ s.render = "Stop." :=
    ⟨_, rfl, _, List.mem_cons_self, by decide +kernel, by decide +kernel⟩
  refine ⟨⟨layered, hlayered, ?_⟩, whole, hwhole, ?_⟩
  · rw [(render_of_ofRequest hlayered "Why?").2.1 hblank, hbefore, hafter]
    decide +kernel
  · rw [(render_of_ofRequest hwhole "Why?").1 step hstep hreplaces (by rw [htext]; decide +kernel),
      htext]

end Plan

end Decorate
