import Decorate.Proofs.Equality
import Decorate.Proofs.RecordNesting
import Decorate.Proofs.VersionText

/-!
# Definitions reloaded

The text of a definition is read back as that definition. It takes three
steps, and each holds for itself: the text is read as the document that
was written (`Json.read?_write`), the document as the record
(`DefinitionRecord.ofJson?_toJson`), and the record is accepted again, as
the same definition (`Definition.ofRecord_toRecord`), since what was
accepted is written in the form in which it was accepted.

The first step has a limit. The reader of texts refuses documents that
are nested more than `Json.maxDepth` deep, and a definition may be
deeper, if it was not read from a text itself: in the default of a list,
or in the schemas of its items. The second step needs bounds that are
finite, as all bounds are that come from a text
(`Definition.isFinite_of_ofText`). For definitions with such bounds
`Definition.reload` says exactly when they are read back, and
`Definition.text_deep_not_read` is one that is not.
-/

namespace Decorate

/-! ## Defaults -/

theorem Json.distinctItems_of_forall {items : List Json} (h : ∀ j ∈ items, j.distinct = j) :
    distinctItems items = items := by
  induction items with
  | nil => rfl
  | cons item rest ih =>
      obtain ⟨hitem, hrest⟩ := List.forall_mem_cons.mp h
      rw [distinctItems, hitem, ih hrest]

/-- Without objects there are no members to repeat. -/
theorem Json.Plain.distinct {j : Json} (h : j.Plain) : j.distinct = j := by
  induction h with
  | bool b => rfl
  | num n => rfl
  | str s => rfl
  | arr _ ih => rw [Json.distinct, distinctItems_of_forall ih]

/-! ## Bounds -/

theorem Json.isFinite_of_optional? {ms : Members} {field : String} {bound : Option Double}
    (h : optional? ms field asDouble? = some bound) {b : Double} (hb : bound = some b) :
    b.isFinite = true := by
  unfold optional? at h
  split at h
  · cases h.trans (congrArg some hb)
  · cases h.trans (congrArg some hb)
  · rename_i j _ _
    obtain ⟨x, hx, rfl⟩ := Option.map_eq_some_iff.mp h
    cases hb
    cases j <;> cases hx
    rfl

theorem Limits.isFinite_of_ofMembers? {ms : Json.Members} {l : Limits}
    (h : ofMembers? ms = some l) : ∀ b ∈ l.bounds, b.isFinite = true := by
  simp only [ofMembers?, Option.bind_eq_bind, Option.bind_eq_some_iff] at h
  obtain ⟨allowed, -, min, hmin, max, hmax, minLength, -, maxLength, -, pattern, -, heq⟩ := h
  cases heq
  intro b hb
  rcases List.mem_append.mp hb with hb | hb
  · exact Json.isFinite_of_optional? hmin (Option.mem_toList.mp hb)
  · exact Json.isFinite_of_optional? hmax (Option.mem_toList.mp hb)

namespace Shape

theorem isFinite_ofParts (kind : Kind) {limits : Limits} {items? : Option Shape}
    (hlimits : ∀ b ∈ limits.bounds, b.isFinite = true)
    (hitems : ∀ items, items? = some items → ∀ b ∈ items.bounds, b.isFinite = true) :
    ∀ b ∈ (ofParts kind limits items?).bounds, b.isFinite = true := by
  cases items? with
  | none => exact hlimits
  | some items => exact List.forall_mem_append.mpr ⟨hlimits, hitems items rfl⟩

mutual
theorem isFinite_of_ofJson? : (j : Json) → {s : Shape} → ofJson? j = some s →
    ∀ b ∈ s.bounds, b.isFinite = true
  | .obj ms, s, h => by
      rw [ofJson?] at h
      split at h
      · cases h
      · split at h
        · rename_i kind limits items hkind hlimits hitems
          cases h
          exact isFinite_ofParts kind (Limits.isFinite_of_ofMembers? hlimits) fun inner hinner =>
            isFinite_of_itemsOf? ms (hitems.trans (congrArg some hinner))
        · cases h
  | .null, _, h | .bool _, _, h | .num _, _, h | .str _, _, h | .arr _, _, h => by cases h

theorem isFinite_of_itemsOf? : (ms : List (String × Json)) → {s : Shape} →
    itemsOf? ms = some (some s) → ∀ b ∈ s.bounds, b.isFinite = true
  | [], _, h => by cases h
  | (key, value) :: rest, s, h => by
      rw [itemsOf?.eq_def] at h
      simp only at h
      split at h
      · split at h
        · cases h
        · obtain ⟨inner, hinner, heq⟩ := Option.map_eq_some_iff.mp h
          cases heq
          exact isFinite_of_ofJson? value hinner
      · exact isFinite_of_itemsOf? rest h
end

end Shape

theorem Schema.isFinite_of_ofJson? {j : Json} {s : Schema} (h : ofJson? j = some s) :
    ∀ b ∈ s.shape.bounds, b.isFinite = true := by
  simp only [ofJson?, Option.bind_eq_bind, Option.bind_eq_some_iff] at h
  obtain ⟨ms, -, name, -, kind, -, description, -, default, -, required, -, limits, hlimits,
    items, hitems, heq⟩ := h
  cases heq
  exact Shape.isFinite_ofParts kind (Limits.isFinite_of_ofMembers? hlimits) fun inner hinner =>
    Shape.isFinite_of_itemsOf? ms (hitems.trans (congrArg some hinner))

/-! ## Records -/

theorem Json.exists_of_mem_readAll {α β : Type} {read : α → Option β} {y : β} :
    ∀ {xs : List α} {ys : List β}, readAll read xs = some ys → y ∈ ys → ∃ x, read x = some y
  | [], _, h, hy => by
      cases h
      cases hy
  | x :: rest, ys, h, hy => by
      rw [readAll] at h
      split at h
      · rename_i z zs hz hzs
        cases h
        rcases List.mem_cons.mp hy with rfl | hy
        · exact ⟨x, hz⟩
        · exact exists_of_mem_readAll hzs hy
      · cases h

theorem DefinitionRecord.isFinite_of_ofJson? {j : Json} {r : DefinitionRecord}
    (h : ofJson? j = some r) : ∀ s ∈ r.parameters, ∀ b ∈ s.shape.bounds, b.isFinite = true := by
  simp only [ofJson?, Option.bind_eq_bind, Option.bind_eq_some_iff] at h
  obtain ⟨ms, -, name, -, version, -, category, -, description, -, parameters, hread, template, -,
    compatibility, -, heq⟩ := h
  cases heq
  intro s hs
  unfold Json.defaulted? at hread
  split at hread
  · cases hread
    cases hs
  · obtain ⟨items, -, hall⟩ := Option.bind_eq_some_iff.mp hread
    obtain ⟨k, hk⟩ := Json.exists_of_mem_readAll hall hs
    exact Schema.isFinite_of_ofJson? hk

namespace Compatibility

theorem readNames_text : ∀ names : List Name, readNames (names.map Name.text) = .ok names
  | [] => rfl
  | n :: rest => by
      simp only [List.map_cons, readNames, Name.ofString_text, readNames_text rest]
      rfl

theorem readBound_text : ∀ bound : Option Version, readBound (bound.map Version.text) = .ok bound
  | none => rfl
  | some v => by simp only [Option.map_some, readBound, Version.ofString_text]

theorem ofBounds_bounds (range : StandardRange) :
    StandardRange.ofBounds range.min range.max = .ok range := by
  obtain ⟨min, max, h⟩ := range
  cases min <;> cases max
  · rfl
  · rfl
  · rfl
  · simp only [StandardRange.ofBounds]
    exact dif_pos h

theorem readRange_text (range : StandardRange) :
    readRange (range.min.map Version.text) (range.max.map Version.text) = .ok range := by
  simp only [readRange, readBound_text, ofBounds_bounds]

theorem ofRecord_toRecord {name : Name} {c : Compatibility} (h : c.Consistent name) :
    ofRecord name c.toRecord = .ok ⟨c, h⟩ := by
  obtain ⟨hclash, hself⟩ := h
  simp only [ofRecord, toRecord, readNames_text, Sorted.ofList_toList, readRange_text]
  split
  · rename_i hsome
    rw [Sorted.ofList_toList, Sorted.ofList_toList, hclash] at hsome
    cases hsome
  · rw [dif_pos hself]

end Compatibility

namespace Definition

/-- A definition is what its record is read as. -/
theorem ofRecord_toRecord (d : Definition) : ofRecord d.toRecord = .ok d := by
  simp only [ofRecord, toRecord, Name.ofString_text, Version.ofString_text,
    Compatibility.ofRecord_toRecord d.consistent]
  split
  · rename_i hsome
    rw [d.declared] at hsome
    cases hsome
  · split
    · rename_i hsome
      rw [d.mapped] at hsome
      cases hsome
    · rfl

/-- Documents hold finite numbers only, and so do the definitions that are read from them. -/
theorem isFinite_of_ofText {text : String} {d : Definition} (h : ofText text = .ok d) :
    ∀ b ∈ d.bounds, b.isFinite = true := by
  unfold ofText at h
  split at h
  · rename_i j hj
    unfold ofJson at h
    split at h
    · rename_i r hr
      intro b hb
      obtain ⟨s, hs, hbs⟩ := List.mem_flatMap.mp hb
      rw [parameters_of_ofRecord h] at hs
      exact DefinitionRecord.isFinite_of_ofJson? hr s hs b hbs
    · cases h
  · cases h

/-- The document of a definition with finite bounds reads back, however deep it is. -/
theorem ofJson_toJson {d : Definition} (hfinite : ∀ b ∈ d.bounds, b.isFinite = true) :
    ofJson d.toRecord.toJson = .ok d := by
  have hbounds : ∀ s ∈ d.toRecord.parameters, ∀ b ∈ s.shape.bounds, b.isFinite = true :=
    fun s hs b hb => hfinite b (List.mem_flatMap.mpr ⟨s, hs, hb⟩)
  have hdefaults : ∀ s ∈ d.toRecord.parameters, ∀ j, s.default = some j →
      j.distinct = j ∧ j ≠ .null := by
    intro s hs j hj
    have h := d.plain_default hs hj
    refine ⟨h.distinct, ?_⟩
    rintro rfl
    cases h
  simp only [ofJson, DefinitionRecord.ofJson?_toJson hbounds hdefaults, ofRecord_toRecord]

section

variable {d : Definition}
  (hnumbers : ∀ x, .real x ∈ d.toRecord.toJson.numbers → (Json.Number.real x).ReadsBack)

include hnumbers

theorem read?_text :
    Json.read? d.text = if d.nesting ≤ Json.maxDepth then some d.toRecord.toJson else none :=
  Json.read?_write fun n hn => by
    cases n with
    | whole i fits => exact Json.readsBack_whole i fits
    | real x => exact hnumbers x hn

/-- A definition that is nested too deep is written to a text that cannot be read. -/
theorem ofText_text_of_deep (hdepth : Json.maxDepth < d.nesting) :
    ofText d.text = .error ⟨"<unparsed>", .unreadable .notJson⟩ := by
  rw [ofText, read?_text hnumbers, if_neg (Nat.not_le.mpr hdepth)]

/-- **A definition with finite bounds is read back from its text unless it is nested too
deep**, provided that the real numbers in it read back. A definition that was read from a
text has finite bounds and is not nested too deep. -/
theorem reload :
    ((∀ b ∈ d.bounds, b.isFinite = true) → d.nesting ≤ Json.maxDepth →
        ∃ e, ofText d.text = .ok e ∧ e = d ∧ e.same d = true ∧ e.text = d.text)
      ∧ (Json.maxDepth < d.nesting →
          ofText d.text = .error ⟨"<unparsed>", .unreadable .notJson⟩)
      ∧ ∀ text, ofText text = .ok d →
          (∀ b ∈ d.bounds, b.isFinite = true) ∧ d.nesting ≤ Json.maxDepth := by
  refine ⟨fun hfinite hdepth => ?_, ofText_text_of_deep hnumbers,
    fun text h => ⟨isFinite_of_ofText h, nesting_le_of_ofText h⟩⟩
  have hsame : d.same d = true := same_self_iff.mpr fun hnan => by cases hfinite _ hnan
  refine ⟨d, ?_, rfl, hsame, rfl⟩
  rw [ofText, read?_text hnumbers, if_pos hdepth]
  exact ofJson_toJson hfinite

end

/-- A definition with something in every part of its record. -/
def survey : Definition where
  name := ⟨"Survey", rfl⟩
  version := { major := 1, minor := 2, patch := 0, pre := [⟨['r', 'c'], by decide, rfl⟩] }
  category := "research"
  description := some "Asks \"why\"."
  parameters :=
    [{ name := "weight", shape := .simple .number { range := ⟨some (.finite .half), none⟩ },
       default := some (.num (.real .half)) },
     { name := "tone", shape := .simple .enum { allowed := ["calm", "brisk"] }, required := true },
     { name := "topics",
       shape :=
        .withItems .list { length := ⟨some 1, some 9⟩ } (.simple .text { pattern := some "^a" }),
       default := some (.arr [.str "art"]) }]
  template :=
    { instruction := "Ask about \x7btopics\x7d.",
      mapping := .ofList
        [("topics", .format "\x7bvalue\x7d"), ("tone", .lookup (.ofList [("calm", "Be calm.")]))],
      placement := .append, behavior := .override }
  compatibility :=
    { requires := .ofList [⟨"Context", rfl⟩], standard := ⟨some .one, none, trivial⟩,
      models := .ofList ["b", "a"] }
  declared := by decide +kernel
  mapped := by decide +kernel
  consistent := by decide +kernel

theorem reload_survey :
    (∀ b ∈ survey.bounds, b.isFinite = true)
      ∧ (∀ x, .real x ∈ survey.toRecord.toJson.numbers → (Json.Number.real x).ReadsBack)
      ∧ survey.nesting ≤ Json.maxDepth ∧ ofText survey.text = .ok survey := by
  have hnumbers : ∀ x, .real x ∈ survey.toRecord.toJson.numbers →
      (Json.Number.real x).ReadsBack := fun x hx =>
    (by decide +kernel : ∀ n ∈ survey.toRecord.toJson.numbers, n.ReadsBack) _ hx
  have hfinite : ∀ b ∈ survey.bounds, b.isFinite = true := by decide
  have hdepth : survey.nesting ≤ Json.maxDepth := by decide +kernel
  obtain ⟨e, he, rfl, -⟩ := (reload hnumbers).1 hfinite hdepth
  exact ⟨hfinite, hnumbers, hdepth, he⟩

/-- An empty list in `n` others. -/
def lists : Nat → Json
  | 0 => .arr []
  | n + 1 => .arr [lists n]

/-- A list parameter whose default consists of 125 lists in each other. -/
def deep : Definition where
  name := ⟨"Deep", rfl⟩
  version := .one
  category := "general"
  description := none
  parameters := [{ name := "x", shape := .simple .list {}, default := some (lists 124) }]
  template := {}
  compatibility := {}
  declared := by decide +kernel
  mapped := rfl
  consistent := ⟨rfl, rfl, rfl⟩

/-- The record adds three levels, and the reader stops one level before the innermost list:
what was accepted as a record is refused as its text. -/
theorem text_deep_not_read :
    ofRecord deep.toRecord = .ok deep ∧ (∀ b ∈ deep.bounds, b.isFinite = true)
      ∧ deep.toRecord.toJson.numbers = [] ∧ deep.nesting = 128
      ∧ ofText deep.text = .error ⟨"<unparsed>", .unreadable .notJson⟩ := by
  have hfinite : ∀ b ∈ deep.bounds, b.isFinite = true := by decide
  have hnumbers : deep.toRecord.toJson.numbers = [] := by decide +kernel
  have hdepth : deep.nesting = 128 := by decide +kernel
  have hreals : ∀ x, .real x ∈ deep.toRecord.toJson.numbers →
      (Json.Number.real x).ReadsBack := by
    rw [hnumbers]
    exact fun _ hx => nomatch hx
  refine ⟨ofRecord_toRecord deep, hfinite, hnumbers, hdepth, ?_⟩
  exact ofText_text_of_deep hreals (by rw [hdepth]; decide)

end Definition

end Decorate
