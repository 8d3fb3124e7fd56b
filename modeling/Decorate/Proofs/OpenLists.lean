import Decorate.Proofs.Stopping
import Mathlib.Data.List.Induction

/-!
# Open argument lists

Between its parentheses an argument list is open (`Mode.head?`), and a
move leaves it open or completes the invocation (`Mode.move_within`).
So a run that begins in a list and ends with as many invocations as it
began with is in that list all along (`within_or_longer`).

Only a parenthesis behind a name or a version opens a list
(`Mode.move_opensBehind`), and where none is open a closing one belongs
to the prompt (`Mode.move_prompts`). Hence an open list stands behind a
text that can be read by itself (`exists_head_of_readFrom`), and a text
that ends with a parenthesis and has an empty prompt ends with a list
(`exists_last_of_closed`).
-/

namespace Decorate

namespace Invocation

/-! ## Open argument lists -/

/-- The invocation without its arguments. -/
def Opened.head (o : Opened) : Invocation := ⟨o.name, o.version, []⟩

/-- The invocation whose argument list is open, without its arguments. -/
def Mode.head? : Mode → Option Invocation
  | argument opened | key opened _ | equals opened _ => some opened.head
  | value slot | bare slot _ | quoted slot _ _ | escaped slot _ _ | item slot
  | afterValue slot => some slot.opened.head
  | between | plus | plusPlus | prompt _ | name _ | version _ _ => none

/-- What a move in the argument list of the invocation comes to: it stays in the list, or
completes the invocation. -/
def Move.Within (i : Invocation) : Move → Prop
  | go mode => mode.head? = some i
  | complete invocation mode => { invocation with parameters := [] } = i ∧ mode = .between
  | refuse _ | refuseAfter _ => True
  | invalidVersion _ _ => False

@[simp] theorem head_fill (slot : Slot) (value : Json) :
    (slot.fill value).opened.head = slot.opened.head := by
  unfold Slot.fill
  split <;> rfl

@[simp] theorem head_closeList (slot : Slot) : slot.closeList.opened.head = slot.opened.head := by
  unfold Slot.closeList
  split
  · rfl
  · rw [head_fill]

theorem valueMove_within (slot : Slot) (c : Char) : (valueMove slot c).Within slot.opened.head := by
  unfold valueMove
  repeat' split
  all_goals trivial

theorem afterValueMove_within (slot : Slot) (c : Char) :
    (afterValueMove slot c).Within slot.opened.head := by
  unfold afterValueMove
  split
  · rfl
  · split
    · split
      · rfl
      · split
        · exact ⟨rfl, rfl⟩
        · trivial
    · split
      · rfl
      · split
        · exact congrArg some (head_closeList slot)
        · trivial

/-- **A move leaves the argument list open, or completes the invocation.** -/
theorem Mode.move_within {m : Mode} {i : Invocation} (h : m.head? = some i) (c : Char) :
    (m.move c).Within i := by
  cases m with
  | between | plus | plusPlus | prompt _ | name _ | version _ _ => cases h
  | argument opened =>
      obtain rfl := Option.some.inj h
      simp only [Mode.move]
      split
      · rfl
      · split
        · exact ⟨rfl, rfl⟩
        · split <;> trivial
  | key _ _ | equals _ _ =>
      obtain rfl := Option.some.inj h
      simp only [Mode.move]
      repeat' split
      all_goals trivial
  | quoted slot quote text =>
      obtain rfl := Option.some.inj h
      simp only [Mode.move]
      split
      · rfl
      · split
        · exact congrArg some (head_fill slot _)
        · rfl
  | escaped slot quote text => exact h
  | value slot =>
      obtain rfl := Option.some.inj h
      simp only [Mode.move]
      split
      · rfl
      · exact valueMove_within slot c
  | bare slot text =>
      obtain rfl := Option.some.inj h
      simp only [Mode.move]
      split
      · rw [← head_fill slot (bareValue text)]
        exact afterValueMove_within _ c
      · rfl
  | item slot =>
      obtain rfl := Option.some.inj h
      simp only [Mode.move]
      split
      · rfl
      · split
        · exact congrArg some (head_closeList slot)
        · exact valueMove_within slot c
  | afterValue slot =>
      obtain rfl := Option.some.inj h
      exact afterValueMove_within slot c

/-! ## Runs within a list -/

/-- A step goes on in a mode, or behind an invocation that it completes. -/
theorem State.step_eq_ok {s t : State} {c : Char} (h : s.step c = .ok t) :
    (s.mode.move c = .go t.mode ∧ t.done = s.done)
      ∨ ∃ i, s.mode.move c = .complete i t.mode ∧ t.done = i :: s.done := by
  unfold State.step at h
  split at h <;> rename_i hm
  · obtain rfl := Except.ok.inj h
    exact Or.inl ⟨hm, rfl⟩
  · obtain rfl := Except.ok.inj h
    exact Or.inr ⟨_, hm, rfl⟩
  · cases h
  · cases h
  · cases h

theorem State.step_within {s t : State} {c : Char} {i : Invocation} (h : s.mode.head? = some i)
    (hstep : s.step c = .ok t) :
    (t.mode.head? = some i ∧ t.done = s.done)
      ∨ t.mode = .between
        ∧ ∃ last, { last with parameters := [] } = i ∧ t.done = last :: s.done := by
  have hmove := Mode.move_within h c
  rcases s.step_eq_ok hstep with ⟨hm, hdone⟩ | ⟨last, hm, hdone⟩ <;> rw [hm] at hmove
  · exact Or.inl ⟨hmove, hdone⟩
  · exact Or.inr ⟨hmove.2, last, hmove.1, hdone⟩

/-- A run forgets no invocation. -/
theorem done_suffix_of_readFrom :
    ∀ {cs : List Char} {s t : State}, readFrom s cs = .ok t → s.done <:+ t.done
  | [], s, t, h => by
      obtain rfl := Except.ok.inj h
      exact List.suffix_refl _
  | c :: cs, s, t, h => by
      unfold readFrom at h
      split at h
      · rename_i s₁ hstep
        have hrest := done_suffix_of_readFrom h
        rcases s.step_eq_ok hstep with ⟨-, hdone⟩ | ⟨i, -, hdone⟩ <;> rw [hdone] at hrest
        · exact hrest
        · exact (List.suffix_cons i s.done).trans hrest
      · cases h

/-- **A run that begins in an argument list ends in it, or with more invocations.** -/
theorem within_or_longer {i : Invocation} :
    ∀ {cs : List Char} {s t : State}, s.mode.head? = some i → readFrom s cs = .ok t →
      (t.mode.head? = some i ∧ t.done = s.done) ∨ s.done.length < t.done.length
  | [], s, t, hopen, h => by
      obtain rfl := Except.ok.inj h
      exact Or.inl ⟨hopen, rfl⟩
  | c :: cs, s, t, hopen, h => by
      unfold readFrom at h
      split at h
      · rename_i s₁ hstep
        rcases State.step_within hopen hstep with ⟨hopen₁, hdone⟩ | ⟨-, last, -, hdone⟩
        · rw [← hdone]
          exact within_or_longer hopen₁ h
        · have hlength := (done_suffix_of_readFrom h).length_le
          rw [hdone, List.length_cons] at hlength
          exact Or.inr hlength
      · cases h

/-! ## The parentheses -/

/-- The mode is that behind the name or the version of the invocation. -/
inductive Mode.Names : Mode → Invocation → Prop where
  | name {text : List Char} (hne : text ≠ []) :
      Names (.name text) ⟨String.ofList text.reverse, none, []⟩
  | version {decorator : String} {text : List Char} {v : Version}
      (hv : readVersion decorator text = .ok v) :
      Names (.version decorator text) ⟨decorator, some v, []⟩

/-- There the text can end, -/
theorem Mode.Names.result {s : State} {i : Invocation} (h : s.mode.Names i) :
    s.result = .ok ⟨s.done.reverse ++ [i], ""⟩ := by
  generalize hm : s.mode = m at h
  unfold State.result
  cases h with
  | name hne =>
      rw [hm]
      split
      all_goals simp_all [State.finish]
  | version hv =>
      rw [hm]
      simp only [hv]
      rfl

/-- or arguments can begin. -/
theorem Mode.Names.move {m : Mode} {i : Invocation} (h : m.Names i) :
    ∃ mode, m.move '(' = .go mode ∧ mode.head? = some i := by
  have hname : Name.isNameChar '(' = false := by decide
  have hversion : isVersionChar '(' = false := by decide
  cases h with
  | name hne =>
      refine ⟨.argument ⟨_, none, []⟩, ?_, rfl⟩
      simp only [Mode.move, hname, Bool.false_eq_true, if_false, hne]
      rfl
  | version hv =>
      refine ⟨.argument ⟨_, some _, []⟩, ?_, rfl⟩
      simp only [Mode.move, hversion, Bool.false_eq_true, if_false, hv]
      rfl

/-- Where no list is open, only a parenthesis behind a name or version can open one. -/
def Move.OpensBehind (m : Mode) (c : Char) : Move → Prop
  | go mode => ∀ i, mode.head? = some i → c = '(' ∧ m.Names i
  | complete _ mode => mode.head? = none
  | refuse _ | refuseAfter _ | invalidVersion _ _ => True

theorem head?_betweenMode (c : Char) : (betweenMode c).head? = none := by
  unfold betweenMode
  repeat' split
  all_goals rfl

theorem Mode.Names.endHead {m : Mode} {decorator : String} {v : Option Version}
    (h : m.Names ⟨decorator, v, []⟩) (c : Char) : (endHead decorator v c).OpensBehind m c := by
  unfold Invocation.endHead
  split
  · rename_i hc
    intro i hi
    obtain rfl := Option.some.inj hi
    exact ⟨hc, h⟩
  · exact head?_betweenMode c

theorem Mode.move_opensBehind {m : Mode} (h : m.head? = none) (c : Char) :
    (m.move c).OpensBehind m c := by
  have hnone : ∀ {mode : Mode}, mode.head? = none → (Move.go mode).OpensBehind m c := by
    intro mode hmode i hi
    rw [hmode] at hi
    cases hi
  cases m with
  | between => exact hnone (head?_betweenMode c)
  | plus | plusPlus =>
      simp only [Mode.move]
      split <;> exact hnone rfl
  | prompt text => exact hnone rfl
  | name text =>
      simp only [Mode.move]
      split
      · exact hnone rfl
      · split
        · trivial
        · rename_i hne
          split
          · exact hnone rfl
          · exact (Mode.Names.name hne).endHead c
  | version decorator text =>
      simp only [Mode.move]
      split
      · exact hnone rfl
      · split
        · rename_i v hv
          exact (Mode.Names.version hv).endHead c
        · trivial
  | _ => cases h

/-- Where no list is open, a closing parenthesis belongs to the prompt. -/
def Move.Prompts : Move → Prop
  | go mode | complete _ mode => ∃ text, mode = .prompt text ∧ text ≠ []
  | refuse _ | refuseAfter _ | invalidVersion _ _ => True

theorem endHead_prompts (name : String) (v : Option Version) : (endHead name v ')').Prompts :=
  ⟨[')'], rfl, List.cons_ne_nil _ _⟩

theorem Mode.move_prompts {m : Mode} (h : m.head? = none) : (m.move ')').Prompts := by
  have hname : Name.isNameChar ')' = false := by decide
  have hversion : isVersionChar ')' = false := by decide
  cases m with
  | between | plus | plusPlus | prompt _ => exact ⟨_, rfl, List.cons_ne_nil _ _⟩
  | name text =>
      simp only [Mode.move, hname, Bool.false_eq_true, if_false]
      split
      · trivial
      · exact endHead_prompts _ none
  | version decorator text =>
      simp only [Mode.move, hversion, Bool.false_eq_true, if_false]
      split
      · exact endHead_prompts decorator _
      · trivial
  | _ => cases h

/-! ## Where a list stands -/

theorem exists_of_readFrom_append {s t : State} {xs ys : List Char}
    (h : readFrom s (xs ++ ys) = .ok t) :
    ∃ s₁, readFrom s xs = .ok s₁ ∧ readFrom s₁ ys = .ok t := by
  rw [readFrom_append] at h
  cases hxs : readFrom s xs with
  | error e =>
      rw [hxs] at h
      cases h
  | ok s₁ =>
      rw [hxs] at h
      exact ⟨s₁, rfl, h⟩

theorem exists_of_readFrom_cons {s t : State} {c : Char} {cs : List Char}
    (h : readFrom s (c :: cs) = .ok t) : ∃ s₁, s.step c = .ok s₁ ∧ readFrom s₁ cs = .ok t := by
  unfold readFrom at h
  split at h
  · rename_i s₁ hstep
    exact ⟨s₁, hstep, h⟩
  · cases h

theorem exists_of_readFrom_concat {s t : State} {cs : List Char} {c : Char}
    (h : readFrom s (cs ++ [c]) = .ok t) : ∃ s₁, readFrom s cs = .ok s₁ ∧ s₁.step c = .ok t := by
  obtain ⟨s₁, hcs, hc⟩ := exists_of_readFrom_append h
  obtain ⟨s₂, hstep, hnil⟩ := exists_of_readFrom_cons hc
  obtain rfl := Except.ok.inj hnil
  exact ⟨s₁, hcs, hstep⟩

/-- **An open list stands behind a text of the same invocations**, by induction over the text
from its end. -/
theorem exists_head_of_readFrom {i : Invocation} {cs : List Char} :
    ∀ {s : State}, readFrom {} cs = .ok s → s.mode.head? = some i →
      ∃ head inside t, cs = head ++ '(' :: inside ∧ readFrom {} head = .ok t
        ∧ t.result = .ok ⟨s.done.reverse ++ [i], ""⟩ := by
  induction cs using List.reverseRecOn with
  | nil =>
      intro s h hopen
      obtain rfl := Except.ok.inj h
      cases hopen
  | append_singleton cs c ih =>
      intro s h hopen
      obtain ⟨s₁, hcs, hstep⟩ := exists_of_readFrom_concat h
      cases hopen₁ : s₁.mode.head? with
      | some j =>
          rcases State.step_within hopen₁ hstep with ⟨hj, hdone⟩ | ⟨hbetween, -⟩
          · obtain rfl : i = j := Option.some.inj (hopen.symm.trans hj)
            obtain ⟨head, inside, t, rfl, hhead, hresult⟩ := ih hcs hopen₁
            refine ⟨head, inside ++ [c], t, by rw [List.append_assoc, List.cons_append], hhead, ?_⟩
            rw [hresult, hdone]
          · rw [hbetween] at hopen
            cases hopen
      | none =>
          have hmove := Mode.move_opensBehind hopen₁ c
          rcases s₁.step_eq_ok hstep with ⟨hm, hdone⟩ | ⟨_, hm, -⟩ <;> rw [hm] at hmove
          · obtain ⟨rfl, hnames⟩ := hmove i hopen
            exact ⟨cs, [], s₁, rfl, hcs, by rw [hnames.result, hdone]⟩
          · rw [hmove] at hopen
            cases hopen

/-- A text of invocations ends between two of them, or behind the name or version of the
last. -/
theorem between_or_names {s : State} {cs : List Char} (h : s.Reads cs) {is : List Invocation}
    (hresult : s.result = .ok ⟨is, ""⟩) :
    (s.mode = .between ∧ is = s.done.reverse)
      ∨ ∃ i, s.mode.Names i ∧ is = s.done.reverse ++ [i] := by
  have hfinish : ∀ {last : List Invocation} {text : List Char},
      s.finish last text = .ok ⟨is, ""⟩ → text = [] ∧ is = s.done.reverse ++ last := by
    intro last text hp
    obtain ⟨hlast, htext⟩ := Prompt.mk.inj (Except.ok.inj hp)
    exact ⟨by simpa using congrArg String.toList htext, hlast.symm⟩
  have hends := h.ends
  unfold State.result at hresult
  split at hresult <;> rename_i hm <;> rw [hm] at hends ⊢
  · exact Or.inl ⟨rfl, by rw [(hfinish hresult).2, List.append_nil]⟩
  · cases (hfinish hresult).1
  · cases (hfinish hresult).1
  · -- a prompt that has begun is not empty: it would not be settled if a blank followed
    have hsettled := hends.2 ['\n']
    rw [(hfinish hresult).1] at hsettled
    have hblank := hsettled.1 '\n' rfl
    cases hblank
  · cases hresult
  · rename_i text hne
    exact Or.inr ⟨_, .name fun hnil => hne hnil, (hfinish hresult).2⟩
  · split at hresult
    · rename_i v hv
      exact Or.inr ⟨_, .version hv, (hfinish hresult).2⟩
    · cases hresult
  all_goals cases hresult

/-- Once in the prompt, the reader stays there. -/
theorem prompts_of_readFrom {s t : State} {text cs : List Char} (hmode : s.mode = .prompt text)
    (h : readFrom s cs = .ok t) : t.mode = .prompt (cs.reverse ++ text) := by
  obtain ⟨position, done, mode⟩ := s
  obtain rfl : mode = .prompt text := hmode
  have hrun : Leads (.prompt text) cs [] (.prompt (cs.reverse ++ text)) :=
    leads_collect (fun _ _ _ => rfl) text
  rw [hrun] at h
  obtain rfl := Except.ok.inj h
  rfl

/-- The prompt that has begun is in the answer. -/
theorem ne_of_prompt {s : State} {text : List Char} (hmode : s.mode = .prompt text)
    (hne : text ≠ []) {is : List Invocation} : s.result ≠ .ok ⟨is, ""⟩ := by
  intro hresult
  unfold State.result at hresult
  rw [hmode] at hresult
  have htext := (Prompt.mk.inj (Except.ok.inj hresult)).2
  exact hne (by simpa using congrArg String.toList htext)

/-- The key that waits for its equals sign. -/
def Mode.pendingKey? : Mode → Option String
  | key _ text => some (String.ofList text.reverse)
  | equals _ keyText => some keyText
  | between | plus | plusPlus | prompt _ | name _ | version _ _ | argument _ | value _ | bare _ _
  | quoted _ _ _ | escaped _ _ _ | item _ | afterValue _ => none

/-- What a text comes to that ends in an open list. -/
theorem State.result_of_open {s : State} {i : Invocation} (h : s.mode.head? = some i) :
    s.result = .error (match s.mode.pendingKey? with
      | some key => .malformed s.position (.equalsSign key)
      | none => .unterminated i.name) := by
  obtain ⟨position, done, mode⟩ := s
  cases mode with
  | between | plus | plusPlus | prompt _ | name _ | version _ _ => cases h
  | key _ _ | equals _ _ => rfl
  | argument _ | value _ | bare _ _ | quoted _ _ _ | escaped _ _ _ | item _ | afterValue _ =>
      obtain rfl := Option.some.inj h
      rfl

/-- **A parenthesis that ends a text without a prompt ends a list**, that of the last
invocation. -/
theorem exists_last_of_closed {s t : State} (hstep : s.step ')' = .ok t) {is : List Invocation}
    (hresult : t.result = .ok ⟨is, ""⟩) :
    ∃ last, s.mode.head? = some { last with parameters := [] }
      ∧ is = s.done.reverse ++ [last] := by
  cases hopen : s.mode.head? with
  | none =>
      -- the parenthesis would be in the prompt
      have hmove := Mode.move_prompts hopen
      rcases s.step_eq_ok hstep with ⟨hm, -⟩ | ⟨_, hm, -⟩ <;> rw [hm] at hmove
      all_goals
        obtain ⟨text, hmode, hne⟩ := hmove
        exact absurd hresult (ne_of_prompt hmode hne)
  | some i =>
      rcases State.step_within hopen hstep with ⟨hopen', -⟩ | ⟨hmode, last, rfl, hdone⟩
      · rw [State.result_of_open hopen'] at hresult
        cases hresult
      · refine ⟨last, rfl, ?_⟩
        unfold State.result at hresult
        rw [hmode] at hresult
        obtain ⟨his, -⟩ := Prompt.mk.inj (Except.ok.inj hresult)
        rw [← his, hdone, List.append_nil, List.reverse_cons]

end Invocation

end Decorate
