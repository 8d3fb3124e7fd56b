import Decorate.Invocation.Reader
import Decorate.Parameter.Value

/-!
# Runs of the reader

The reader looks at one character at a time, so a run over a text is a
chain of moves (`Leads`), and runs over two texts join into a run over
the one followed by the other (`Leads.append`). What was read before
plays no part in a run; it is only added to.

The runs given here are those over the parts of a text that a mode
collects: names, keys, bare texts, and texts between quotes.

`WellFormed` is what a run keeps of its findings: whatever the text, names
and keys that the reader has taken in are identifiers, and what stands
under a key is a document for a value (`wellFormed_of_read`).
-/

namespace Decorate

namespace Invocation

/-! ## Runs -/

/-- The bytes of a text. -/
def width : List Char → Nat
  | [] => 0
  | c :: cs => c.utf8Size + width cs

@[simp] theorem width_cons (c : Char) (cs : List Char) :
    width (c :: cs) = c.utf8Size + width cs := rfl

@[simp] theorem width_append (xs ys : List Char) : width (xs ++ ys) = width xs + width ys := by
  induction xs with
  | nil => exact (Nat.zero_add _).symm
  | cons c rest ih => rw [List.cons_append, width_cons, width_cons, ih, Nat.add_assoc]

/-- Reading the text leads from one mode to the other and completes the invocations, the
last one first. -/
def Leads (m : Mode) (cs : List Char) (new : List Invocation) (m' : Mode) : Prop :=
  ∀ position done,
    readFrom ⟨position, done, m⟩ cs = .ok ⟨position + width cs, new ++ done, m'⟩

theorem Leads.nil (m : Mode) : Leads m [] [] m := fun _ _ => rfl

theorem Leads.append {m₁ m₂ m₃ : Mode} {xs ys : List Char} {new₁ new₂ : List Invocation}
    (h₁ : Leads m₁ xs new₁ m₂) (h₂ : Leads m₂ ys new₂ m₃) :
    Leads m₁ (xs ++ ys) (new₂ ++ new₁) m₃ := by
  intro position done
  rw [readFrom_append, h₁, Except.bind, h₂, width_append, Nat.add_assoc, List.append_assoc]

/-- A run that goes on where one within an invocation ends. -/
theorem Leads.extend {m₁ m₂ m₃ : Mode} {xs ys : List Char} {new : List Invocation}
    (h₁ : Leads m₁ xs [] m₂) (h₂ : Leads m₂ ys new m₃) : Leads m₁ (xs ++ ys) new m₃ :=
  List.append_nil new ▸ h₁.append h₂

/-- A move within an invocation. -/
theorem Leads.go {m₁ m₂ m₃ : Mode} {c : Char} {cs : List Char} {new : List Invocation}
    (hc : m₁.move c = .go m₂) (h : Leads m₂ cs new m₃) : Leads m₁ (c :: cs) new m₃ := by
  intro position done
  simp only [readFrom, State.step, hc]
  rw [h, width_cons, Nat.add_assoc]

/-- A move that completes an invocation. -/
theorem Leads.complete {m₁ m₂ m₃ : Mode} {c : Char} {cs : List Char} {i : Invocation}
    {new : List Invocation} (hc : m₁.move c = .complete i m₂) (h : Leads m₂ cs new m₃) :
    Leads m₁ (c :: cs) (new ++ [i]) m₃ := by
  intro position done
  simp only [readFrom, State.step, hc]
  rw [h, width_cons, Nat.add_assoc, List.append_assoc, List.singleton_append]

/-- A last move, which completes an invocation. -/
theorem Leads.last {m₁ m₂ : Mode} {c : Char} {i : Invocation} (hc : m₁.move c = .complete i m₂) :
    Leads m₁ [c] [i] m₂ :=
  Leads.complete hc (Leads.nil m₂)

/-- A run over characters that a mode only collects. `collect` is the mode with a
collected text in it, the last character first. -/
theorem leads_collect {collect : List Char → Mode} :
    ∀ {cs : List Char}, (∀ c ∈ cs, ∀ text, (collect text).move c = .go (collect (c :: text))) →
      ∀ text, Leads (collect text) cs [] (collect (cs.reverse ++ text))
  | [], _, text => Leads.nil _
  | c :: cs, h, text => by
      rw [List.reverse_cons, List.append_assoc, List.singleton_append]
      exact Leads.go (h c List.mem_cons_self text)
        (leads_collect (fun d hd => h d (List.mem_cons_of_mem _ hd)) (c :: text))

theorem leads_key (opened : Opened) {cs : List Char} (h : cs.all Name.isNameChar = true)
    (text : List Char) : Leads (.key opened text) cs [] (.key opened (cs.reverse ++ text)) :=
  leads_collect (fun c hc _ => by simp only [Mode.move, List.all_eq_true.mp h c hc, if_true]) text

theorem leads_bare {slot : Slot} {cs : List Char} (h : ∀ c ∈ cs, slot.isTerminator c = false)
    (text : List Char) : Leads (.bare slot text) cs [] (.bare slot (cs.reverse ++ text)) :=
  leads_collect (fun c hc _ => by simp [Mode.move, h c hc]) text

/-! ## Identifiers -/

/-- A text of at least one ASCII letter, digit or underscore. -/
def IsIdentifier (s : String) : Prop := s ≠ "" ∧ s.toList.all Name.isNameChar = true

instance (s : String) : Decidable (IsIdentifier s) := inferInstanceAs (Decidable (_ ∧ _))

theorem isIdentifier_ofList_reverse {text : List Char} (hne : text ≠ [])
    (h : text.all Name.isNameChar = true) : IsIdentifier (String.ofList text.reverse) := by
  refine ⟨?_, by simpa using h⟩
  intro heq
  have hnil : text.reverse = [] := by simpa using congrArg String.toList heq
  exact hne (List.reverse_eq_nil_iff.mp hnil)

/-! ## What the reader takes in -/

/-- A document for a value: no null and no object at any depth. -/
def IsArgument (j : Json) : Prop := ∃ v, Value.ofJson? j = some v

theorem isArgument_arr {items : List Json} (h : ∀ j ∈ items, IsArgument j) :
    IsArgument (.arr items) := by
  suffices hitems : ∃ vs, Value.ofJsonItems? items = some vs by
    obtain ⟨vs, hvs⟩ := hitems
    exact ⟨.list vs, by simp [Value.ofJson?, hvs]⟩
  induction items with
  | nil => exact ⟨[], rfl⟩
  | cons j rest ih =>
      obtain ⟨v, hv⟩ := h j List.mem_cons_self
      obtain ⟨vs, hvs⟩ := ih fun k hk => h k (List.mem_cons_of_mem _ hk)
      exact ⟨v :: vs, by simp only [Value.ofJsonItems?, hv, hvs]⟩

theorem isArgument_literal (cs : List Char) : IsArgument (literal cs) := by
  unfold literal
  split
  · exact ⟨.bool true, rfl⟩
  · split
    · exact ⟨.bool false, rfl⟩
    · simp only
      split
      · exact ⟨.number _, rfl⟩
      · split
        · exact ⟨.number _, rfl⟩
        · exact ⟨.text _, rfl⟩

/-- Keys are identifiers and what stands under them are documents for values. -/
def ArgumentsOK (ms : Json.Members) : Prop := ∀ m ∈ ms, IsIdentifier m.1 ∧ IsArgument m.2

theorem ArgumentsOK.put {ms : Json.Members} {key : String} {value : Json} (hkey : IsIdentifier key)
    (hvalue : IsArgument value) (h : ArgumentsOK ms) : ArgumentsOK (Json.put key value ms) := by
  induction ms with
  | nil =>
      intro m hm
      obtain rfl := List.mem_singleton.mp hm
      exact ⟨hkey, hvalue⟩
  | cons kv rest ih =>
      obtain ⟨hkv, hrest⟩ := List.forall_mem_cons.mp h
      unfold Json.put
      split
      · exact List.forall_mem_cons.mpr ⟨⟨hkv.1, hvalue⟩, hrest⟩
      · exact List.forall_mem_cons.mpr ⟨hkv, ih hrest⟩

def WellFormed (i : Invocation) : Prop := IsIdentifier i.name ∧ ArgumentsOK i.parameters

def Opened.WellFormed (o : Opened) : Prop := IsIdentifier o.name ∧ ArgumentsOK o.parameters

structure Slot.WellFormed (s : Slot) : Prop where
  opened : s.opened.WellFormed
  key : IsIdentifier s.key
  items : ∀ items ∈ s.nesting, ∀ j ∈ items, IsArgument j

theorem Slot.WellFormed.fill {s : Slot} {value : Json} (h : s.WellFormed)
    (hvalue : IsArgument value) : (s.fill value).WellFormed := by
  unfold Slot.fill
  split
  · exact ⟨⟨h.opened.1, h.opened.2.put h.key hvalue⟩, h.key, h.items⟩
  · rename_i items outer hn
    have hitems := h.items
    rw [hn] at hitems
    obtain ⟨hinner, houter⟩ := List.forall_mem_cons.mp hitems
    refine ⟨h.opened, h.key, List.forall_mem_cons.mpr ⟨?_, houter⟩⟩
    exact List.forall_mem_cons.mpr ⟨hvalue, hinner⟩

theorem Slot.WellFormed.openList {s : Slot} (h : s.WellFormed) : s.openList.WellFormed :=
  ⟨h.opened, h.key, List.forall_mem_cons.mpr ⟨(fun _ hj => nomatch hj), h.items⟩⟩

theorem Slot.WellFormed.closeList {s : Slot} (h : s.WellFormed) : s.closeList.WellFormed := by
  unfold Slot.closeList
  split
  · exact h
  · rename_i items outer hn
    have hitems := h.items
    rw [hn] at hitems
    obtain ⟨hinner, houter⟩ := List.forall_mem_cons.mp hitems
    have hslot : Slot.WellFormed { s with nesting := outer } := ⟨h.opened, h.key, houter⟩
    exact hslot.fill (isArgument_arr fun j hj => hinner j (List.mem_reverse.mp hj))

def Mode.WellFormed : Mode → Prop
  | name text => text.all Name.isNameChar = true
  | version decorator _ => IsIdentifier decorator
  | argument opened => opened.WellFormed
  | key opened text => opened.WellFormed ∧ text ≠ [] ∧ text.all Name.isNameChar = true
  | equals opened keyText => opened.WellFormed ∧ IsIdentifier keyText
  | value slot | bare slot _ | quoted slot _ _ | escaped slot _ _ | item slot | afterValue slot =>
      slot.WellFormed
  | between | plus | plusPlus | prompt _ => True

/-- What a move takes in is well-formed. -/
def Move.WellFormed : Move → Prop
  | go mode => mode.WellFormed
  | complete invocation mode => invocation.WellFormed ∧ mode.WellFormed
  | refuse _ | refuseAfter _ | invalidVersion _ _ => True

theorem wellFormed_betweenMode (c : Char) : (betweenMode c).WellFormed := by
  unfold betweenMode
  split
  · trivial
  · split <;> trivial

theorem wellFormed_endHead {name : String} (h : IsIdentifier name) (v : Option Version) (c : Char) :
    (endHead name v c).WellFormed := by
  unfold endHead
  split
  · exact ⟨h, fun _ hm => nomatch hm⟩
  · exact ⟨⟨h, fun _ hm => nomatch hm⟩, wellFormed_betweenMode c⟩

theorem Slot.WellFormed.valueMove {s : Slot} (h : s.WellFormed) (c : Char) :
    (valueMove s c).WellFormed := by
  unfold Invocation.valueMove
  split
  · exact h
  · split
    · exact h.openList
    · split
      · trivial
      · exact h

theorem Slot.WellFormed.afterValueMove {s : Slot} (h : s.WellFormed) (c : Char) :
    (afterValueMove s c).WellFormed := by
  unfold Invocation.afterValueMove
  split
  · exact h
  · split
    · split
      · exact h.opened
      · split
        · exact ⟨h.opened, trivial⟩
        · trivial
    · split
      · exact h
      · split
        · exact h.closeList
        · trivial

/-- **A move keeps the reader's findings well-formed.** -/
theorem Mode.WellFormed.move {m : Mode} (h : m.WellFormed) (c : Char) : (m.move c).WellFormed := by
  have hchar : ∀ {text : List Char}, text.all Name.isNameChar = true → Name.isNameChar c = true →
      (c :: text).all Name.isNameChar = true := fun htext hc => by
    rw [List.all_cons, hc, htext, Bool.and_self]
  cases m with
  | between => exact wellFormed_betweenMode c
  | plus => simp only [Mode.move]; split <;> trivial
  | plusPlus => simp only [Mode.move]; split <;> trivial
  | prompt text => trivial
  | name text =>
      simp only [Mode.move]
      split
      · rename_i hc
        exact hchar h hc
      · split
        · trivial
        · rename_i hne
          split
          · exact isIdentifier_ofList_reverse hne h
          · exact wellFormed_endHead (isIdentifier_ofList_reverse hne h) none c
  | version name text =>
      simp only [Mode.move]
      split
      · exact h
      · split
        · exact wellFormed_endHead h _ c
        · trivial
  | argument opened =>
      simp only [Mode.move]
      split
      · exact h
      · split
        · exact ⟨h, trivial⟩
        · split
          · rename_i hc
            exact ⟨h, by simp, hchar rfl hc⟩
          · trivial
  | key opened text =>
      obtain ⟨hopened, hne, htext⟩ := h
      simp only [Mode.move]
      split
      · rename_i hc
        exact ⟨hopened, by simp, hchar htext hc⟩
      · split
        · exact ⟨hopened, isIdentifier_ofList_reverse hne htext⟩
        · split
          · exact ⟨hopened, isIdentifier_ofList_reverse hne htext, fun _ hj => nomatch hj⟩
          · trivial
  | equals opened key =>
      simp only [Mode.move]
      split
      · exact h
      · split
        · exact ⟨h.1, h.2, fun _ hj => nomatch hj⟩
        · trivial
  | value slot =>
      simp only [Mode.move]
      split
      · exact h
      · exact Slot.WellFormed.valueMove h c
  | bare slot text =>
      simp only [Mode.move]
      split
      · exact (Slot.WellFormed.fill h (isArgument_literal _)).afterValueMove c
      · exact h
  | quoted slot quote text =>
      simp only [Mode.move]
      split
      · exact h
      · split
        · exact Slot.WellFormed.fill h ⟨.text _, rfl⟩
        · exact h
  | escaped slot quote text => exact h
  | item slot =>
      simp only [Mode.move]
      split
      · exact h
      · split
        · exact Slot.WellFormed.closeList h
        · exact Slot.WellFormed.valueMove h c
  | afterValue slot => exact Slot.WellFormed.afterValueMove h c

structure State.WellFormed (s : State) : Prop where
  done : ∀ i ∈ s.done, i.WellFormed
  mode : s.mode.WellFormed

theorem State.WellFormed.step {s t : State} {c : Char} (h : s.WellFormed)
    (hstep : s.step c = .ok t) : t.WellFormed := by
  have hmove := h.mode.move c
  unfold State.step at hstep
  split at hstep <;> rename_i hm
  · rw [hm] at hmove
    obtain rfl := Except.ok.inj hstep
    exact ⟨h.done, hmove⟩
  · rw [hm] at hmove
    obtain rfl := Except.ok.inj hstep
    exact ⟨List.forall_mem_cons.mpr ⟨hmove.1, h.done⟩, hmove.2⟩
  · cases hstep
  · cases hstep
  · cases hstep

theorem State.WellFormed.readFrom :
    ∀ {cs : List Char} {s t : State}, s.WellFormed → readFrom s cs = .ok t → t.WellFormed
  | [], s, t, h, hread => by
      obtain rfl := Except.ok.inj hread
      exact h
  | c :: cs, s, t, h, hread => by
      unfold Invocation.readFrom at hread
      split at hread
      · rename_i hstep
        exact State.WellFormed.readFrom (h.step hstep) hread
      · cases hread

theorem State.WellFormed.result {s : State} {p : Prompt} (h : s.WellFormed)
    (hresult : s.result = .ok p) : ∀ i ∈ p.invocations, i.WellFormed := by
  have hfinish : ∀ {last : List Invocation} {text : List Char}, (∀ i ∈ last, i.WellFormed) →
      s.finish last text = .ok p → ∀ i ∈ p.invocations, i.WellFormed := by
    intro last text hlast hp
    obtain rfl := Except.ok.inj hp
    intro i hi
    rcases List.mem_append.mp hi with hi | hi
    · exact h.done i (List.mem_reverse.mp hi)
    · exact hlast i hi
  have hnone : ∀ i ∈ ([] : List Invocation), i.WellFormed := fun _ hi => nomatch hi
  have hbare : ∀ {name : String} {v : Option Version}, IsIdentifier name →
      ∀ i ∈ [(⟨name, v, []⟩ : Invocation)], i.WellFormed := by
    intro name v hname i hi
    obtain rfl := List.mem_singleton.mp hi
    exact ⟨hname, fun _ hm => nomatch hm⟩
  have hmode := h.mode
  unfold State.result at hresult
  split at hresult <;> rename_i hm <;> rw [hm] at hmode
  · exact hfinish hnone hresult
  · exact hfinish hnone hresult
  · exact hfinish hnone hresult
  · exact hfinish hnone hresult
  · cases hresult
  · rename_i text hne
    exact hfinish (hbare (isIdentifier_ofList_reverse hne hmode)) hresult
  · split at hresult
    · exact hfinish (hbare hmode) hresult
    · cases hresult
  all_goals cases hresult

/-- **Whatever text is read, the invocations found in it are well-formed.** -/
theorem wellFormed_of_read {text : String} {p : Prompt} (h : Prompt.read text = .ok p) :
    ∀ i ∈ p.invocations, i.WellFormed := by
  have hstart : State.WellFormed {} := ⟨(fun _ hi => nomatch hi), trivial⟩
  unfold Prompt.read at h
  split at h
  · rename_i hread
    exact (hstart.readFrom hread).result h
  · cases h

end Invocation

end Decorate
