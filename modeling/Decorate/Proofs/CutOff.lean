import Decorate.Proofs.Joining
import Decorate.Proofs.OpenLists

/-!
# Argument lists that are cut off

A text of invocations that ends with an argument list can be cut
anywhere within that list. What is left of it is reported as a list of
the same decorator that does not end, wherever the cut falls, with one
exception: in a key, and between a key and its equals sign, what is
reported is that the equals sign is missing (`read_cut_off`).

The list is open from its opening parenthesis to the end of the text
(`open_at_cut`). What key is pending at the cut is told by the text
alone (`endsInKey_iff`): the characters of the key, and perhaps spaces
after them, stand where the reader expects a parameter.
-/

namespace Decorate

namespace Invocation

/-! ## Keys -/

/-- The move begins no key, and shows no parameter to be missing. -/
def Move.Keyless : Move → Prop
  | go mode | complete _ mode => mode.pendingKey? = none
  | refuse expected | refuseAfter expected => expected ≠ .parameterName
  | invalidVersion _ _ => True

theorem pendingKey?_betweenMode (c : Char) : (betweenMode c).pendingKey? = none := by
  unfold betweenMode
  repeat' split
  all_goals rfl

theorem keyless_endHead (name : String) (v : Option Version) (c : Char) :
    (endHead name v c).Keyless := by
  unfold endHead
  split
  · rfl
  · exact pendingKey?_betweenMode c

theorem keyless_valueMove (slot : Slot) (c : Char) : (valueMove slot c).Keyless := by
  unfold valueMove
  repeat' split
  all_goals first | rfl | nofun

theorem keyless_afterValueMove (slot : Slot) (c : Char) : (afterValueMove slot c).Keyless := by
  unfold afterValueMove
  repeat' split
  all_goals first | rfl | nofun

/-- **Keys begin at the places for parameters only.** -/
theorem Mode.move_keyless {m : Mode} (hpending : m.pendingKey? = none)
    (hargument : ∀ opened, m ≠ .argument opened) (c : Char) : (m.move c).Keyless := by
  cases m with
  | argument opened => exact absurd rfl (hargument opened)
  | key _ _ | equals _ _ => cases hpending
  | between => exact pendingKey?_betweenMode c
  | plus | plusPlus =>
      simp only [Mode.move]
      split <;> rfl
  | prompt _ | escaped _ _ _ => rfl
  | name text =>
      simp only [Mode.move]
      split
      · rfl
      · split
        · intro h
          cases h
        · split
          · rfl
          · exact keyless_endHead _ none c
  | version decorator text =>
      simp only [Mode.move]
      split
      · rfl
      · split
        · exact keyless_endHead decorator _ c
        · trivial
  | quoted _ _ _ =>
      simp only [Mode.move]
      repeat' split
      all_goals rfl
  | value slot =>
      simp only [Mode.move]
      split
      · rfl
      · exact keyless_valueMove slot c
  | item slot =>
      simp only [Mode.move]
      repeat' split
      any_goals rfl
      exact keyless_valueMove slot c
  | bare slot text =>
      simp only [Mode.move]
      split
      · exact keyless_afterValueMove _ c
      · rfl
  | afterValue slot => exact keyless_afterValueMove slot c

/-! ## Where a parameter is expected -/

/-- Behind the text the reader expects a parameter: an equals sign there is reported at its
place. -/
def ExpectsParameter (text : String) : Prop :=
  Prompt.read (text ++ "=") = .error (.malformed text.utf8ByteSize .parameterName)

/-- What the reader makes of an equals sign behind a text. -/
theorem read_append_equals {cs : List Char} {s : State} (h : readFrom {} cs = .ok s) :
    Prompt.read (String.ofList cs ++ "=") = answerFrom s ['='] := by
  have htext : (String.ofList cs ++ "=").toList = cs ++ ['='] := by
    rw [String.toList_append, String.toList_ofList]
    rfl
  rw [← answerFrom_append h, ← htext]
  rfl

theorem expectsParameter_of_argument {cs : List Char} {s : State} {opened : Opened}
    (h : readFrom {} cs = .ok s) (hmode : s.mode = .argument opened) :
    ExpectsParameter (String.ofList cs) := by
  have hstep : s.step '=' = .error (.malformed s.position .parameterName) := by
    unfold State.step
    rw [hmode]
    rfl
  rw [ExpectsParameter, read_append_equals h, utf8ByteSize_ofList,
    ← (reads_of_readFrom h).position]
  unfold answerFrom readFrom
  rw [hstep]

/-- Where an equals sign shows that a parameter is missing, a parameter is expected. -/
theorem Mode.argument_of_refuse {m : Mode}
    (h : m.move '=' = .refuse .parameterName ∨ m.move '=' = .refuseAfter .parameterName) :
    ∃ opened, m = .argument opened := by
  cases hpending : m.pendingKey? with
  | some key =>
      cases m with
      | key opened text | equals opened keyText => rcases h with h | h <;> cases h
      | _ => cases hpending
  | none =>
      by_contra hnot
      have hkeyless := Mode.move_keyless hpending (fun opened hm => hnot ⟨opened, hm⟩) '='
      rcases h with h | h <;> rw [h] at hkeyless <;> exact hkeyless rfl

/-- At the end of a text a parameter is never missing. -/
theorem State.result_ne_parameterName (s : State) (position : Nat) :
    s.result ≠ .error (.malformed position .parameterName) := by
  intro h
  unfold State.result at h
  split at h
  case h_7 =>
    split at h
    · cases h
    · rename_i hversion
      rw [error_of_readVersion hversion] at h
      cases h
  all_goals cases h

theorem argument_of_expectsParameter {cs : List Char} {s : State} (h : readFrom {} cs = .ok s)
    (hexpects : ExpectsParameter (String.ofList cs)) : ∃ opened, s.mode = .argument opened := by
  rw [ExpectsParameter, read_append_equals h] at hexpects
  refine Mode.argument_of_refuse ?_
  unfold answerFrom readFrom State.step at hexpects
  cases hm : s.mode.move '=' with
  | go mode =>
      rw [hm] at hexpects
      exact absurd hexpects (State.result_ne_parameterName _ _)
  | complete i mode =>
      rw [hm] at hexpects
      exact absurd hexpects (State.result_ne_parameterName _ _)
  | refuse expected =>
      rw [hm] at hexpects
      obtain rfl := (InvocationError.malformed.inj (Except.error.inj hexpects)).2
      exact Or.inl rfl
  | refuseAfter expected =>
      rw [hm] at hexpects
      obtain rfl := (InvocationError.malformed.inj (Except.error.inj hexpects)).2
      exact Or.inr rfl
  | invalidVersion decorator version =>
      rw [hm] at hexpects
      cases hexpects

/-! ## Pending keys -/

/-- The text ends in the key or in the spaces behind it. -/
def EndsInKey (text key : String) : Prop :=
  ∃ before blanks, text = before ++ key ++ blanks ∧ ExpectsParameter before ∧ IsIdentifier key
    ∧ ∀ c ∈ blanks.toList, c = ' ' ∨ c = '\t'

/-- What a mode holds of a key stands at the end of the text read, where a parameter is
expected. -/
def Mode.PendsIn (cs : List Char) : Mode → Prop
  | key _ text => ∃ before, cs = before ++ text.reverse ∧ ExpectsParameter (String.ofList before)
  | equals _ keyText => ∃ before blanks, cs = before ++ keyText.toList ++ blanks
      ∧ ExpectsParameter (String.ofList before) ∧ ∀ c ∈ blanks, c = ' ' ∨ c = '\t'
  | between | plus | plusPlus | prompt _ | name _ | version _ _ | argument _ | value _ | bare _ _
  | quoted _ _ _ | escaped _ _ _ | item _ | afterValue _ => True

/-- The same of the mode the move leads to. -/
def Move.PendsIn (cs : List Char) : Move → Prop
  | go mode | complete _ mode => mode.PendsIn cs
  | refuse _ | refuseAfter _ | invalidVersion _ _ => True

theorem Mode.pendsIn_of_none {m : Mode} (h : m.pendingKey? = none) (cs : List Char) :
    m.PendsIn cs := by
  cases m with
  | key _ _ | equals _ _ => cases h
  | _ => trivial

theorem Move.Keyless.pendsIn {m : Move} (h : m.Keyless) (cs : List Char) : m.PendsIn cs := by
  cases m with
  | go _ | complete _ _ => exact Mode.pendsIn_of_none h cs
  | refuse _ | refuseAfter _ | invalidVersion _ _ => trivial

/-- **A move keeps what it holds of a key at the end of the text.** -/
theorem Mode.PendsIn.move {m : Mode} {cs : List Char} (h : m.PendsIn cs)
    (hargument : ∀ opened, m = .argument opened → ExpectsParameter (String.ofList cs))
    (c : Char) : (m.move c).PendsIn (cs ++ [c]) := by
  cases m with
  | argument opened =>
      simp only [Mode.move]
      repeat' split
      any_goals trivial
      exact ⟨cs, rfl, hargument opened rfl⟩
  | key opened text =>
      obtain ⟨before, rfl, hexpects⟩ := h
      simp only [Mode.move]
      split
      · exact ⟨before, by rw [List.reverse_cons, List.append_assoc], hexpects⟩
      · split
        · rename_i hc
          refine ⟨before, [c], by rw [String.toList_ofList], hexpects, ?_⟩
          rintro d hd
          rwa [List.mem_singleton.mp hd]
        · split <;> trivial
  | equals opened keyText =>
      obtain ⟨before, blanks, rfl, hexpects, hblanks⟩ := h
      simp only [Mode.move]
      split
      · rename_i hc
        refine ⟨before, blanks ++ [c], by simp only [List.append_assoc], hexpects, ?_⟩
        rintro d hd
        rcases List.mem_append.mp hd with hd | hd
        · exact hblanks d hd
        · rwa [List.mem_singleton.mp hd]
      · split <;> trivial
  | _ =>
      refine Move.Keyless.pendsIn (Mode.move_keyless ?_ ?_ c) _
      · rfl
      · intro opened h
        cases h

/-- By induction over the text from its end. -/
theorem pendsIn_of_readFrom {cs : List Char} :
    ∀ {s : State}, readFrom {} cs = .ok s → s.mode.PendsIn cs := by
  induction cs using List.reverseRecOn with
  | nil =>
      intro s h
      obtain rfl := Except.ok.inj h
      trivial
  | append_singleton cs c ih =>
      intro s h
      obtain ⟨s₁, hcs, hstep⟩ := exists_of_readFrom_concat h
      have hmove := (ih hcs).move (fun opened => expectsParameter_of_argument hcs) c
      rcases s₁.step_eq_ok hstep with ⟨hm, -⟩ | ⟨_, hm, -⟩ <;> rwa [hm] at hmove

theorem leads_equals (opened : Opened) {keyText : String} :
    ∀ {blanks : List Char}, (∀ c ∈ blanks, c = ' ' ∨ c = '\t') →
      Leads (.equals opened keyText) blanks [] (.equals opened keyText)
  | [], _ => Leads.nil _
  | c :: blanks, h => by
      obtain ⟨hc, hblanks⟩ := List.forall_mem_cons.mp h
      have hmove : (Mode.equals opened keyText).move c = .go (.equals opened keyText) := by
        simp only [Mode.move, hc, if_true]
      exact Leads.go hmove (leads_equals opened hblanks)

/-- A key, with the spaces behind it, is pending after a place for a parameter. -/
theorem leads_pending (opened : Opened) {keyText : String} (hkey : IsIdentifier keyText)
    {blanks : List Char} (hblanks : ∀ c ∈ blanks, c = ' ' ∨ c = '\t') :
    ∃ m, Leads (.argument opened) (keyText.toList ++ blanks) [] m
      ∧ m.pendingKey? = some keyText := by
  obtain ⟨c, cs, hcs⟩ := List.exists_cons_of_ne_nil (mt String.toList_eq_nil_iff.mp hkey.1)
  have hall := hkey.2
  rw [hcs, List.all_cons, Bool.and_eq_true] at hall
  have hbare := isBareChar_of_isNameChar hall.1
  have hfirst : (Mode.argument opened).move c = .go (.key opened [c]) := by
    simp [Mode.move, hbare.1, hbare.ne.2.1, hall.1]
  have hrun : Leads (.argument opened) keyText.toList [] (.key opened keyText.toList.reverse) := by
    rw [hcs, List.reverse_cons]
    exact Leads.go hfirst (leads_key opened hall.2 [c])
  cases blanks with
  | nil =>
      rw [List.append_nil]
      refine ⟨_, hrun, ?_⟩
      rw [Mode.pendingKey?, List.reverse_reverse, String.ofList_toList]
  | cons d blanks =>
      obtain ⟨hd, hrest⟩ := List.forall_mem_cons.mp hblanks
      have hspace : (Mode.key opened keyText.toList.reverse).move d
          = .go (.equals opened keyText) := by
        have hname : Name.isNameChar d = false := by
          rcases hd with rfl | rfl <;> decide
        simp only [Mode.move, hname, Bool.false_eq_true, if_false, hd, if_true,
          List.reverse_reverse, String.ofList_toList]
      exact ⟨_, hrun.extend (Leads.go hspace (leads_equals opened hrest)), rfl⟩

/-- **The text alone tells the pending key.** -/
theorem endsInKey_iff {text keyText : String} {s : State} (h : readFrom {} text.toList = .ok s) :
    EndsInKey text keyText ↔ s.mode.pendingKey? = some keyText := by
  constructor
  · rintro ⟨before, blanks, rfl, hexpects, hkey, hblanks⟩
    rw [String.toList_append, String.toList_append, List.append_assoc] at h
    obtain ⟨s₁, hbefore, hrest⟩ := exists_of_readFrom_append h
    rw [← String.ofList_toList (s := before)] at hexpects
    obtain ⟨opened, hmode⟩ := argument_of_expectsParameter hbefore hexpects
    obtain ⟨m, hleads, hpending⟩ := leads_pending opened hkey hblanks
    obtain ⟨position, done, mode⟩ := s₁
    obtain rfl : mode = .argument opened := hmode
    rw [hleads] at hrest
    obtain rfl := Except.ok.inj hrest
    exact hpending
  · intro hpending
    have hpends := pendsIn_of_readFrom h
    have hwell := (State.WellFormed.readFrom (s := {}) ⟨nofun, trivial⟩ h).mode
    cases hm : s.mode with
    | key opened chars =>
        rw [hm] at hpends hwell hpending
        obtain ⟨before, htext, hexpects⟩ := hpends
        obtain rfl := Option.some.inj hpending
        refine ⟨String.ofList before, "", String.toList_inj.mp ?_, hexpects,
          isIdentifier_ofList_reverse hwell.2.1 hwell.2.2, nofun⟩
        simp only [htext, String.toList_append, String.toList_ofList, String.toList_empty,
          List.append_nil]
    | equals opened key =>
        rw [hm] at hpends hwell hpending
        obtain ⟨before, blanks, htext, hexpects, hblanks⟩ := hpends
        obtain rfl := Option.some.inj hpending
        refine ⟨String.ofList before, String.ofList blanks, String.toList_inj.mp ?_, hexpects,
          hwell.2, by rwa [String.toList_ofList]⟩
        simp only [htext, String.toList_append, String.toList_ofList]
    | _ =>
        rw [hm] at hpending
        cases hpending

/-! ## The list at the cut -/

/-- The argument list of the last invocation follows the head of the text, which asks for the
same decorators without it. -/
def ListFollows (head text : String) (earlier : List Invocation) (last : Invocation) : Prop :=
  Prompt.read head = .ok ⟨earlier ++ [{ last with parameters := [] }], ""⟩
    ∧ ∃ list, text = head ++ "(" ++ list

theorem exists_of_read {text : String} {p : Prompt} (h : Prompt.read text = .ok p) :
    ∃ s, readFrom {} text.toList = .ok s ∧ s.result = .ok p := by
  unfold Prompt.read at h
  split at h
  · rename_i s hs
    exact ⟨s, hs, h⟩
  · cases h

/-- The parenthesis behind the head opens the list. -/
theorem opens_behind_head {head : List Char} {s t : State} (h : readFrom {} head = .ok s)
    {earlier : List Invocation} {i : Invocation} (hs : s.result = .ok ⟨earlier ++ [i], ""⟩)
    {list : List Char} (hlist : readFrom s ('(' :: list) = .ok t) {j : Invocation}
    (ht : t.mode.head? = some j) :
    ∃ s₁, s.step '(' = .ok s₁ ∧ readFrom s₁ list = .ok t ∧ s₁.mode.head? = some i
      ∧ s₁.done = earlier.reverse := by
  obtain ⟨s₁, hstep, hrest⟩ := exists_of_readFrom_cons hlist
  refine ⟨s₁, hstep, hrest, ?_⟩
  unfold State.step at hstep
  rcases between_or_names (reads_of_readFrom h) hs with ⟨hmode, -⟩ | ⟨k, hnames, his⟩
  · -- between two invocations the parenthesis begins the prompt
    rw [hmode] at hstep
    obtain rfl := Except.ok.inj hstep
    have hprompt : betweenMode '(' = .prompt ['('] := rfl
    rw [prompts_of_readFrom hprompt hrest] at ht
    cases ht
  · obtain ⟨rfl, hik⟩ := List.append_inj' his rfl
    obtain rfl := List.singleton_inj.mp hik
    obtain ⟨mode, hmove, hopen⟩ := hnames.move
    rw [hmove] at hstep
    obtain rfl := Except.ok.inj hstep
    exact ⟨hopen, s.done.reverse_reverse.symm⟩

/-- **The list is open at every cut**: had it ended before, there would be one invocation
more. -/
theorem open_at_cut {s t : State} {inside tail : List Char} {i : Invocation}
    (hopen : s.mode.head? = some i) (h : readFrom s (inside ++ tail) = .ok t)
    (hdone : t.done = s.done) : ∃ u, readFrom s inside = .ok u ∧ u.mode.head? = some i := by
  obtain ⟨u, hinside, htail⟩ := exists_of_readFrom_append h
  refine ⟨u, hinside, ?_⟩
  rcases within_or_longer hopen hinside with ⟨hu, -⟩ | hlonger
  · exact hu
  · have hlength := (done_suffix_of_readFrom htail).length_le
    rw [hdone] at hlength
    omega

/-- What a cut text comes to whose list is open. -/
theorem read_of_open {text : String} {s : State} (h : readFrom {} text.toList = .ok s)
    {i : Invocation} (hopen : s.mode.head? = some i) :
    (∀ key, EndsInKey text key →
        Prompt.read text = .error (.malformed text.utf8ByteSize (.equalsSign key)))
      ∧ ((∀ key, ¬ EndsInKey text key) → Prompt.read text = .error (.unterminated i.name)) := by
  have hposition : s.position = text.utf8ByteSize := by
    rw [(reads_of_readFrom h).position, ← utf8ByteSize_ofList, String.ofList_toList]
  have hread : Prompt.read text = s.result := by
    unfold Prompt.read
    rw [h]
  rw [hread, State.result_of_open hopen, hposition]
  constructor
  · intro key hkey
    rw [(endsInKey_iff h).mp hkey]
  · intro hnone
    cases hpending : s.mode.pendingKey? with
    | none => rfl
    | some key => exact absurd ((endsInKey_iff h).mpr hpending) (hnone key)

end Invocation

open Invocation

/-- **A list that is cut off does not end.** A text with an empty prompt that ends with a
parenthesis ends with the argument list of its last invocation. Cut anywhere between the
parentheses of that list, the text is reported to leave the list of this decorator open, unless
the cut falls in a key or between a key and its equals sign: then the equals sign is reported
to be missing at the end of the text. -/
theorem Prompt.read_cut_off {text : String} {p : Prompt} (h : Prompt.read text = .ok p)
    (hempty : p.text = "") (hclosed : ∃ front, text = front ++ ")") :
    ∃ earlier last, p.invocations = earlier ++ [last]
      ∧ (∃ head, ListFollows head text earlier last)
      ∧ ∀ head, ListFollows head text earlier last →
        ∀ cut rest, text = cut ++ rest → rest ≠ "" → (∃ inside, cut = head ++ "(" ++ inside) →
          (∀ key, EndsInKey cut key →
              Prompt.read cut = .error (.malformed cut.utf8ByteSize (.equalsSign key)))
            ∧ ((∀ key, ¬ EndsInKey cut key) →
              Prompt.read cut = .error (.unterminated last.name)) := by
  obtain ⟨front, rfl⟩ := hclosed
  obtain ⟨invocations, prompt⟩ := p
  obtain rfl : prompt = "" := hempty
  obtain ⟨t, hrun, hresult⟩ := exists_of_read h
  rw [String.toList_append] at hrun
  obtain ⟨s, hfront, hstep⟩ := exists_of_readFrom_concat hrun
  obtain ⟨last, hopen, hlast⟩ := exists_last_of_closed hstep hresult
  refine ⟨s.done.reverse, last, hlast, ?_, ?_⟩
  · obtain ⟨head, inside, u, hchars, hhead, hu⟩ := exists_head_of_readFrom hfront hopen
    refine ⟨String.ofList head, ?_, String.ofList inside ++ ")", String.toList_inj.mp ?_⟩
    · unfold Prompt.read
      rw [String.toList_ofList, hhead]
      exact hu
    · simp [hchars]
  · rintro head ⟨hhead, -⟩ cut rest htext hrest ⟨inside, rfl⟩
    obtain ⟨u, huhead, hu⟩ := exists_of_read hhead
    obtain ⟨tail, c, hc⟩ : ∃ tail c, rest.toList = tail ++ [c] :=
      (List.eq_nil_or_concat' _).resolve_left (mt String.toList_eq_nil_iff.mp hrest)
    -- the text without its last parenthesis, with the cut marked
    have hchars : front.toList = head.toList ++ '(' :: (inside.toList ++ tail) := by
      have hall := congrArg String.toList htext
      simp only [String.toList_append, hc, ← List.append_assoc] at hall
      simpa using (List.append_inj' hall rfl).1
    rw [hchars, readFrom_append, huhead, Except.bind] at hfront
    obtain ⟨s₁, hparenthesis, hlist, hopen₁, hdone⟩ :=
      opens_behind_head huhead hu hfront hopen
    obtain ⟨v, hinside, hv⟩ := open_at_cut hopen₁ hlist (by rw [hdone, List.reverse_reverse])
    have hcut : readFrom {} (head ++ "(" ++ inside).toList = .ok v := by
      have hchars : (head ++ "(" ++ inside).toList = head.toList ++ '(' :: inside.toList := by
        simp
      rw [hchars, readFrom_append, huhead, Except.bind, readFrom, hparenthesis]
      exact hinside
    have hread := read_of_open hcut hv
    exact hread

/-- Cut in a list within the list, and behind a key. -/
theorem Prompt.read_cut_off_tone :
    (∃ p, Prompt.read "+++Outline\n+++Tone(style = \"dry, (b)\", topics=[x, [y]])" = .ok p
        ∧ p.text = "")
      ∧ Prompt.read "+++Outline\n+++Tone(style = \"dry, (b)\", topics=[x, [y"
        = .error (.unterminated "Tone")
      ∧ Prompt.read "+++Outline\n+++Tone(style "
        = .error (.malformed 25 (.equalsSign "style")) := by
  have hread : Prompt.read "+++Outline\n+++Tone(style = \"dry, (b)\", topics=[x, [y]])"
      = .ok ⟨[{ name := "Outline" }, { name := "Tone", parameters :=
          [("style", .str "dry, (b)"), ("topics", .arr [.str "x", .arr [.str "y"]])] }], ""⟩ := rfl
  refine ⟨⟨_, hread, rfl⟩, ?_⟩
  obtain ⟨earlier, last, hlast, -, hcut⟩ := Prompt.read_cut_off hread rfl
    ⟨"+++Outline\n+++Tone(style = \"dry, (b)\", topics=[x, [y]]", rfl⟩
  obtain ⟨rfl, htone⟩ := List.append_inj' (show [_] ++ [_] = earlier ++ [last] from hlast) rfl
  obtain rfl := List.singleton_inj.mp htone
  replace hcut := hcut "+++Outline\n+++Tone"
    ⟨rfl, "style = \"dry, (b)\", topics=[x, [y]])", rfl⟩
  constructor
  · refine (hcut _ "]])" rfl (by decide) ⟨"style = \"dry, (b)\", topics=[x, [y", rfl⟩).2 ?_
    intro key hkey
    cases (endsInKey_iff rfl).mp hkey
  · exact (hcut _ "= \"dry, (b)\", topics=[x, [y]])" rfl (by decide) ⟨"style ", rfl⟩).1 "style"
      ⟨"+++Outline\n+++Tone(", " ", rfl, rfl, by decide,
        fun c hc => Or.inl (List.mem_singleton.mp hc)⟩

/-- A list that is cut off in a key is not reported to be open. -/
theorem Prompt.read_cut_in_key :
    Prompt.read ("+++Tone(st" ++ "yle=formal)")
        = .ok ⟨[{ name := "Tone", parameters := [("style", .str "formal")] }], ""⟩
      ∧ Prompt.read "+++Tone(st" ≠ .error (.unterminated "Tone") := by
  refine ⟨rfl, fun h => ?_⟩
  have hread : Prompt.read "+++Tone(st" = .error (.malformed 10 (.equalsSign "st")) := rfl
  rw [hread] at h
  cases h

end Decorate
