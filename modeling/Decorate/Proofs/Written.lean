import Decorate.Instance.Written
import Decorate.Proofs.Binding
import Decorate.Proofs.NumberText
import Decorate.Proofs.Reading

/-!
# Written values

What the reader makes of the written form of a value: it ends with a
document that stands for that value (`leads_literal`). A value may be
written bare or between quotes, and the two leave the reader in
different modes, since a bare text only ends at the character after it.
`Filled` covers both; what follows a value is read alike from either
(`Filled.move`).
-/

namespace Decorate

namespace Invocation

/-! ## Bare texts -/

/-- A character that a bare text may have: neither blank nor punctuation. -/
def IsBareChar (c : Char) : Prop := Text.isBlankChar c = false ∧ Value.isPunctuation c = false

theorem IsBareChar.ne {c : Char} (h : IsBareChar c) :
    c ≠ ',' ∧ c ≠ ')' ∧ c ≠ '[' ∧ c ≠ ']' ∧ c ≠ '"' ∧ c ≠ '\'' := by
  have hp := h.2
  simp only [Value.isPunctuation, Bool.or_eq_false_iff, beq_eq_false_iff_ne] at hp
  tauto

theorem IsBareChar.isTerminator {c : Char} (h : IsBareChar c) (slot : Slot) :
    slot.isTerminator c = false := by
  obtain ⟨hcomma, hparen, -, hbracket, -⟩ := h.ne
  simp [Slot.isTerminator, hcomma, hparen, hbracket]

theorem trimChars_of_not_blank {cs : List Char} (h : ∀ c ∈ cs, Text.isBlankChar c = false) :
    Text.trimChars cs = cs := by
  have htrim : ∀ {ds : List Char}, (∀ c ∈ ds, Text.isBlankChar c = false) →
      Text.trimLeft ds = ds := by
    intro ds hds
    cases ds with
    | nil => rfl
    | cons d rest => simp [Text.trimLeft, hds d List.mem_cons_self]
  unfold Text.trimChars
  rw [htrim h, htrim fun c hc => h c (List.mem_reverse.mp hc), List.reverse_reverse]

theorem bareValue_reverse {cs : List Char} (h : ∀ c ∈ cs, IsBareChar c) :
    bareValue cs.reverse = literal cs := by
  rw [bareValue, List.reverse_reverse, trimChars_of_not_blank fun c hc => (h c hc).1]

/-! ## Places for values -/

/-- The modes in which the reader expects a value in the slot. -/
def Awaits (slot : Slot) (m : Mode) : Prop := m = .value slot ∨ m = .item slot

theorem Awaits.move {slot : Slot} {m : Mode} (h : Awaits slot m) {c : Char}
    (hblank : Text.isBlankChar c = false) (hclose : c ≠ ']') : m.move c = valueMove slot c := by
  rcases h with rfl | rfl
  · simp [Mode.move, hblank]
  · simp [Mode.move, hblank, hclose]

/-- The modes in which the reader is done with a value for the slot, or will be with the
next character. -/
def Filled (slot : Slot) (j : Json) (m : Mode) : Prop :=
  m = .afterValue (slot.fill j) ∨ ∃ text, m = .bare slot text ∧ bareValue text = j

theorem Filled.move {slot : Slot} {j : Json} {m : Mode} (h : Filled slot j m) {c : Char}
    (hc : slot.isTerminator c = true) : m.move c = afterValueMove (slot.fill j) c := by
  rcases h with rfl | ⟨text, rfl, rfl⟩
  · rfl
  · simp only [Mode.move, hc, if_true]

theorem leads_bare_word {slot : Slot} {m : Mode} (hm : Awaits slot m) (cs : List Char)
    (hne : cs ≠ []) (h : ∀ c ∈ cs, IsBareChar c) :
    ∃ m', Leads m cs [] m' ∧ Filled slot (literal cs) m' := by
  obtain ⟨c, rest, rfl⟩ := List.exists_cons_of_ne_nil hne
  have hc := h c List.mem_cons_self
  obtain ⟨-, -, hopen, hclose, hquote, happ⟩ := hc.ne
  have hfirst : m.move c = .go (.bare slot [c]) := by
    rw [hm.move hc.1 hclose]
    simp [valueMove, hquote, happ, hopen, hc.isTerminator slot]
  refine ⟨.bare slot (c :: rest).reverse, Leads.go hfirst ?_, Or.inr ⟨_, rfl, bareValue_reverse h⟩⟩
  rw [List.reverse_cons]
  exact leads_bare (fun d hd => (h d (List.mem_cons_of_mem _ hd)).isTerminator slot) [c]

/-! ## Quoted texts -/

theorem leads_quoteChar (slot : Slot) (text : List Char) (c : Char) :
    Leads (.quoted slot '"' text) (Value.quoteChar c) [] (.quoted slot '"' (c :: text)) := by
  have hescape : Mode.move '\\' (.quoted slot '"' text) = .go (.escaped slot '"' text) := rfl
  unfold Value.quoteChar
  split
  · rename_i h
    refine Leads.go hescape (Leads.go ?_ (Leads.nil _))
    rcases h with rfl | rfl <;> rfl
  · rename_i h
    split
    · rename_i hn
      subst hn
      exact Leads.go hescape (Leads.go rfl (Leads.nil _))
    · split
      · rename_i ht
        subst ht
        exact Leads.go hescape (Leads.go rfl (Leads.nil _))
      · refine Leads.go ?_ (Leads.nil _)
        obtain ⟨hquote, hbackslash⟩ := not_or.mp h
        simp only [Mode.move, hquote, hbackslash, if_false]

theorem leads_quoted_body (slot : Slot) :
    ∀ (cs text : List Char),
      Leads (.quoted slot '"' text) (cs.flatMap Value.quoteChar) []
        (.quoted slot '"' (cs.reverse ++ text))
  | [], text => Leads.nil _
  | c :: cs, text => by
      rw [List.flatMap_cons, List.reverse_cons, List.append_assoc, List.singleton_append]
      exact (leads_quoteChar slot text c).extend (leads_quoted_body slot cs (c :: text))

theorem leads_quoted {slot : Slot} {m : Mode} (hm : Awaits slot m) (s : String) :
    Leads m (Value.quoted s) [] (.afterValue (slot.fill (.str s))) := by
  have hopen : m.move '"' = .go (.quoted slot '"' []) := hm.move (by decide) (by decide)
  have hclose : Mode.move '"' (.quoted slot '"' s.toList.reverse)
      = .go (.afterValue (slot.fill (.str s))) := by
    simp [Mode.move]
  have hbody := leads_quoted_body slot s.toList []
  rw [List.append_nil] at hbody
  exact Leads.go hopen (hbody.extend (Leads.go hclose (Leads.nil _)))

/-! ## Numbers and words -/

theorem isAlpha_iff {c : Char} :
    c.isAlpha = true ↔ 65 ≤ c.toNat ∧ c.toNat ≤ 90 ∨ 97 ≤ c.toNat ∧ c.toNat ≤ 122 := by
  show (decide (65 ≤ c.val ∧ c.val ≤ 90) || decide (97 ≤ c.val) && decide (c.val ≤ 122)) = true ↔ _
  rw [Bool.or_eq_true, Bool.and_eq_true, decide_eq_true_eq, decide_eq_true_eq, decide_eq_true_eq]
  rfl

theorem isBareChar_of_isNameChar {c : Char} (h : Name.isNameChar c = true) : IsBareChar c := by
  have hrange : 48 ≤ c.toNat ∧ c.toNat ≤ 122 ∧ c.toNat ∉ [61, 91, 92, 93] := by
    simp only [Name.isNameChar, Char.isAlphanum, Bool.or_eq_true, beq_iff_eq, isAlpha_iff] at h
    rcases h with (h | h) | rfl
    · simp
      omega
    · simp [Char.isDigit, UInt32.le_iff_toNat_le] at h ⊢
      omega
    · decide
  constructor
  · simp [Text.isBlankChar]
    omega
  · have hne : ∀ d : Char, d.toNat < 48 ∨ d.toNat ∈ [61, 91, 92, 93] → c ≠ d := by
      rintro d hd rfl
      rcases hd with hd | hd
      · omega
      · exact hrange.2.2 hd
    simp only [Value.isPunctuation, Bool.or_eq_false_iff, beq_eq_false_iff_ne]
    refine ⟨⟨⟨⟨⟨⟨⟨⟨?_, ?_⟩, ?_⟩, ?_⟩, ?_⟩, ?_⟩, ?_⟩, ?_⟩, ?_⟩ <;> exact hne _ (by decide)

theorem leads_flag {slot : Slot} {m : Mode} (hm : Awaits slot m) (cs : List Char) (hne : cs ≠ [])
    (h : cs.all Name.isNameChar = true) :
    ∃ m', Leads m cs [] m' ∧ Filled slot (literal cs) m' :=
  leads_bare_word hm cs hne fun c hc => isBareChar_of_isNameChar (List.all_eq_true.mp h c hc)

/-- The characters that a number is written with are bare. -/
theorem isBareChar_of_mem_plain {x : Binary64} {c : Char} (h : c ∈ x.plain.toList) :
    IsBareChar c := by
  rcases Binary64.mem_plain h with hd | rfl | rfl
  · exact isBareChar_of_isNameChar (by simp [Name.isNameChar, Char.isAlphanum, hd])
  · exact ⟨by decide, by decide⟩
  · exact ⟨by decide, by decide⟩

/-- No number starts with a letter. -/
theorem plain_ne_word {x : Binary64} {c : Char} {cs : List Char} (hc : c.isAlpha = true) :
    x.plain.toList ≠ c :: cs := by
  intro h
  rcases Binary64.mem_plain (x := x) (c := c) (h ▸ List.mem_cons_self) with hd | rfl | rfl
  · rw [isAlpha_iff] at hc
    simp [Char.isDigit, UInt32.le_iff_toNat_le] at hd
    omega
  · cases hc
  · cases hc

/-- A number is read from its text, up to the sign of zero. -/
theorem restatedBy_literal_plain (x : Binary64) :
    (Value.number x).RestatedBy (literal x.plain.toList) := by
  rw [Value.restatedBy_number_iff]
  unfold literal
  rw [if_neg (plain_ne_word (by decide)), if_neg (plain_ne_word (by decide))]
  simp only
  split
  · rename_i n hn
    obtain ⟨i, hi, hwhole⟩ := Option.bind_eq_some_iff.mp hn
    obtain ⟨y, hy, hsame⟩ := Binary64.same_of_integer?_plain hi
    refine ⟨n, rfl, ?_⟩
    split at hwhole
    · unfold Json.Number.ofInt? at hwhole
      split at hwhole
      · obtain rfl := Option.some.inj hwhole
        simpa only [Json.Number.toBinary64, hy, Option.getD_some] using hsame
      · cases hwhole
    · cases hwhole
  · rw [Binary64.real?_plain]
    exact ⟨.real x, rfl, Binary64.same_self x⟩

/-- A text that needs no quotes is read as itself. -/
theorem literal_of_needsQuotes {s : String} (h : Value.needsQuotes s = false) :
    s.toList ≠ [] ∧ (∀ c ∈ s.toList, IsBareChar c) ∧ literal s.toList = .str s := by
  simp only [Value.needsQuotes, Bool.or_eq_false_iff, beq_eq_false_iff_ne] at h
  obtain ⟨⟨⟨⟨hempty, htrue⟩, hfalse⟩, hreal⟩, hchars⟩ := h
  have hne : ∀ {t : List Char}, s ≠ String.ofList t → s.toList ≠ t := fun hst heq =>
    hst (by rw [← heq, String.ofList_toList])
  have hinteger : Numeral.integer? s.toList = none := by
    cases hi : Numeral.integer? s.toList with
    | none => rfl
    | some i => rw [Numeral.isSome_real?_of_integer? hi] at hreal; cases hreal
  refine ⟨hne hempty, ?_, ?_⟩
  · intro c hc
    have hc := List.any_eq_false.mp hchars c hc
    simpa [IsBareChar] using hc
  · unfold literal
    rw [if_neg (hne htrue), if_neg (hne hfalse)]
    simp only [hinteger, Option.bind_none]
    cases hr : Numeral.real? s.toList with
    | none => simp
    | some v => rw [hr] at hreal; cases hreal

/-! ## Values -/

mutual
/-- **The written form of a value is read as a document that stands for it.** -/
theorem leads_literal (slot : Slot) (m : Mode) (hm : Awaits slot m) :
    (v : Value) → ∃ j m', v.RestatedBy j ∧ Leads m v.literal [] m' ∧ Filled slot j m'
  | .bool true => by
      obtain ⟨m', hleads, hfilled⟩ := leads_flag hm ['t', 'r', 'u', 'e'] (by simp) (by decide)
      exact ⟨_, m', Value.restatedBy_bool_iff.mpr rfl, hleads, hfilled⟩
  | .bool false => by
      obtain ⟨m', hleads, hfilled⟩ := leads_flag hm ['f', 'a', 'l', 's', 'e'] (by simp) (by decide)
      exact ⟨_, m', Value.restatedBy_bool_iff.mpr rfl, hleads, hfilled⟩
  | .number x => by
      obtain ⟨m', hleads, hfilled⟩ :=
        leads_bare_word hm _ x.plain_ne_nil fun c hc => isBareChar_of_mem_plain hc
      exact ⟨_, m', restatedBy_literal_plain x, hleads, hfilled⟩
  | .text s => by
      have hstr : (Value.text s).RestatedBy (.str s) := Value.restatedBy_text_iff.mpr rfl
      unfold Value.literal
      split
      · exact ⟨_, _, hstr, leads_quoted hm s, Or.inl rfl⟩
      · rename_i hquotes
        obtain ⟨hne, hbare, hliteral⟩ := literal_of_needsQuotes (Bool.not_eq_true _ ▸ hquotes)
        obtain ⟨m', hleads, hfilled⟩ := leads_bare_word hm _ hne hbare
        rw [hliteral] at hfilled
        exact ⟨_, m', hstr, hleads, hfilled⟩
  | .list [] => by
      have hopen : m.move '[' = .go (.item slot.openList) := hm.move (by decide) (by decide)
      refine ⟨.arr [], .afterValue slot.openList.closeList, ⟨.list [], rfl, rfl⟩, ?_, Or.inl rfl⟩
      exact Leads.go hopen (Leads.go rfl (Leads.nil _))
  | .list (item :: rest) => by
      have hopen : m.move '[' = .go (.item slot.openList) := hm.move (by decide) (by decide)
      obtain ⟨j, m₁, ⟨w, hw, hsame⟩, hitem, hfilled⟩ :=
        leads_literal slot.openList (.item slot.openList) (Or.inr rfl) item
      obtain ⟨js, ws, hws, hsames, hrest⟩ :=
        leads_literalRest slot.openList [] slot.nesting rfl j m₁ hfilled rest
      refine ⟨.arr (j :: js), _, ?_, Leads.go hopen (hitem.extend hrest), Or.inl rfl⟩
      refine Value.restatedBy_list_iff.mpr ⟨j :: js, w :: ws, rfl, ?_, ?_⟩
      · simp only [Value.ofJsonItems?, hw, hws]
      · simp only [Value.sameItems, hsame, hsames, Bool.and_self]

/-- The items after the first, read where the items so far stand in the slot. -/
theorem leads_literalRest (slot : Slot) (items : List Json) (outer : Nesting)
    (hn : slot.nesting = items :: outer) (j : Json) (m : Mode) (hm : Filled slot j m) :
    (vs : List Value) → ∃ js ws, Value.ofJsonItems? js = some ws ∧ Value.sameItems ws vs = true
      ∧ Leads m (Value.literalRest vs) []
          (.afterValue ({ slot with nesting := outer }.fill (.arr ((j :: items).reverse ++ js))))
  | [] => by
      have hfill : slot.fill j = { slot with nesting := (j :: items) :: outer } := by
        simp only [Slot.fill, hn]
      have hclose : m.move ']' = .go (.afterValue (slot.fill j).closeList) := by
        rw [hm.move (by simp [Slot.isTerminator, hn]), hfill]
        rfl
      refine ⟨[], [], rfl, rfl, Leads.go hclose ?_⟩
      rw [hfill, List.append_nil]
      exact Leads.nil _
  | item :: rest => by
      have hfill : slot.fill j = { slot with nesting := (j :: items) :: outer } := by
        simp only [Slot.fill, hn]
      have hcomma : m.move ',' = .go (.item (slot.fill j)) := by
        rw [hm.move (by simp [Slot.isTerminator]), hfill]
        rfl
      have hspace : Mode.move ' ' (.item (slot.fill j)) = .go (.item (slot.fill j)) := rfl
      obtain ⟨k, m₁, ⟨w, hw, hsame⟩, hitem, hfilled⟩ :=
        leads_literal (slot.fill j) (.item (slot.fill j)) (Or.inr rfl) item
      obtain ⟨js, ws, hws, hsames, hrest⟩ :=
        leads_literalRest (slot.fill j) (j :: items) outer (by rw [hfill]) k m₁ hfilled rest
      refine ⟨k :: js, w :: ws, ?_, ?_, Leads.go hcomma (Leads.go hspace (hitem.extend ?_))⟩
      · simp only [Value.ofJsonItems?, hw, hws]
      · simp only [Value.sameItems, hsame, hsames, Bool.and_self]
      · have hslot : { slot.fill j with nesting := outer } = { slot with nesting := outer } := by
          rw [hfill]
        rw [hslot, List.reverse_cons, List.append_assoc, List.singleton_append] at hrest
        exact hrest
end

end Invocation

end Decorate
