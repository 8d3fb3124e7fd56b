import Decorate.Proofs.RoundTrip

/-!
# Where reading stops

The reader takes one step for each character, so it stops on every text.
This module says where. The prompt that it finds is the end of the text,
and reading that once more finds nothing in it; an error that names a
position names one between two characters (`read_well_placed`).

The invariant is `State.Reads`: the position of the reader is the width
of what it has read, and what it holds back for the prompt is the end of
that. A prompt that has begun stays settled whatever follows, so the
invariant survives the characters that are only collected.
-/

namespace Decorate

namespace Invocation

/-! ## What the reader holds back -/

/-- What a mode holds back for the prompt is the end of the text read. -/
def Mode.Ends (cs : List Char) : Mode → Prop
  | plus => ['+'] <:+ cs
  | plusPlus => ['+', '+'] <:+ cs
  | prompt text => text.reverse <:+ cs ∧ ∀ more, Settled (String.ofList (text.reverse ++ more))
  | between | name _ | version _ _ | argument _ | key _ _ | equals _ _ | value _ | bare _ _
  | quoted _ _ _ | escaped _ _ _ | item _ | afterValue _ => True

def Move.Ends (cs : List Char) : Move → Prop
  | go mode | complete _ mode => mode.Ends cs
  | refuse _ | refuseAfter _ | invalidVersion _ _ => True

/-- A prompt begins with the plus signs held back and the character that shows them to be
no mark of an invocation. -/
theorem ends_prompt {held cs : List Char} (hheld : held <:+ cs) {c : Char}
    (hhead : ∀ d, (held ++ [c]).head? = some d → Text.isBlankChar d = false)
    (hplus : ∀ more, ¬ ['+', '+', '+'] <+: held ++ c :: more) :
    (Mode.prompt (c :: held.reverse)).Ends (cs ++ [c]) := by
  have htext : (c :: held.reverse).reverse = held ++ [c] := by
    rw [List.reverse_cons, List.reverse_reverse]
  refine ⟨?_, fun more => ?_⟩
  · rw [htext]
    exact List.suffix_append_self_iff.mpr hheld
  · rw [Settled, String.toList_ofList, htext, List.head?_append_of_ne_nil _ (by simp)]
    refine ⟨hhead, ?_⟩
    rw [List.append_assoc, List.singleton_append]
    exact hplus more

theorem ends_betweenMode (cs : List Char) (c : Char) : (betweenMode c).Ends (cs ++ [c]) := by
  unfold betweenMode
  split
  · trivial
  · rename_i hblank
    split
    · rename_i hplus
      exact hplus ▸ List.suffix_append cs [c]
    · rename_i hplus
      refine ends_prompt List.nil_suffix ?_ fun more => ?_
      · simpa using hblank
      · simp [List.cons_prefix_cons, Ne.symm hplus]

theorem ends_endHead (name : String) (v : Option Version) (cs : List Char) (c : Char) :
    (endHead name v c).Ends (cs ++ [c]) := by
  unfold endHead
  split
  · trivial
  · exact ends_betweenMode cs c

theorem ends_valueMove (slot : Slot) (cs : List Char) (c : Char) : (valueMove slot c).Ends cs := by
  unfold valueMove
  repeat' split
  all_goals trivial

theorem ends_afterValueMove (slot : Slot) (cs : List Char) (c : Char) :
    (afterValueMove slot c).Ends cs := by
  unfold afterValueMove
  repeat' split
  all_goals trivial

/-- **A move keeps what is held back at the end of the text.** -/
theorem Mode.Ends.move {m : Mode} {cs : List Char} (h : m.Ends cs) (c : Char) :
    (m.move c).Ends (cs ++ [c]) := by
  have hblank : Text.isBlankChar '+' = false := by decide
  cases m with
  | between => exact ends_betweenMode cs c
  | plus =>
      simp only [Mode.move]
      split
      · rename_i hc
        subst hc
        show ['+'] ++ ['+'] <:+ cs ++ ['+']
        exact List.suffix_append_self_iff.mpr h
      · rename_i hc
        refine ends_prompt h (by simpa using hblank) fun more => ?_
        simp [List.cons_prefix_cons, Ne.symm hc]
  | plusPlus =>
      simp only [Mode.move]
      split
      · trivial
      · rename_i hc
        refine ends_prompt h (by simpa using hblank) fun more => ?_
        simp [List.cons_prefix_cons, Ne.symm hc]
  | prompt text =>
      obtain ⟨hsuffix, hsettled⟩ := h
      simp only [Mode.move, Move.Ends, Mode.Ends, List.reverse_cons, List.append_assoc]
      exact ⟨List.suffix_append_self_iff.mpr hsuffix, fun more => hsettled ([c] ++ more)⟩
  | name text =>
      simp only [Mode.move]
      split
      · trivial
      · split
        · trivial
        · split
          · trivial
          · exact ends_endHead _ none cs c
  | version name text =>
      simp only [Mode.move]
      split
      · trivial
      · split
        · exact ends_endHead name _ cs c
        · trivial
  | value slot =>
      simp only [Mode.move]
      split
      · trivial
      · exact ends_valueMove slot _ c
  | item slot =>
      simp only [Mode.move]
      split
      · trivial
      · split
        · trivial
        · exact ends_valueMove slot _ c
  | bare slot text =>
      simp only [Mode.move]
      split
      · exact ends_afterValueMove _ _ c
      · trivial
  | afterValue slot => exact ends_afterValueMove slot _ c
  | argument _ | key _ _ | equals _ _ | quoted _ _ _ | escaped _ _ _ =>
      -- what is read here belongs to an invocation
      simp only [Mode.move]
      repeat' split
      all_goals trivial

/-! ## What the reader has read -/

/-- The state is that of a reader which has taken in the text. -/
structure State.Reads (s : State) (cs : List Char) : Prop where
  position : s.position = width cs
  ends : s.mode.Ends cs

theorem reads_start : State.Reads {} [] := ⟨rfl, trivial⟩

/-- A position that the error names has a beginning of the text before it. -/
def PlacedIn (cs : List Char) : InvocationError → Prop
  | .malformed position _ => ∃ before, before <+: cs ∧ position = width before
  | .unterminated _ | .invalidVersion _ _ => True

theorem width_concat (cs : List Char) (c : Char) : width (cs ++ [c]) = width cs + c.utf8Size := by
  rw [width_append, width_cons]
  rfl

theorem State.Reads.step {s : State} {cs : List Char} (h : s.Reads cs) (c : Char)
    (rest : List Char) :
    match s.step c with
    | .ok t => t.Reads (cs ++ [c])
    | .error e => PlacedIn (cs ++ c :: rest) e := by
  have hmove := h.ends.move c
  have hposition : s.position + c.utf8Size = width (cs ++ [c]) := by
    rw [width_concat, h.position]
  unfold State.step
  cases hm : s.mode.move c with
  | go mode =>
      rw [hm] at hmove
      exact ⟨hposition, hmove⟩
  | complete invocation mode =>
      rw [hm] at hmove
      exact ⟨hposition, hmove⟩
  | refuse expected => exact ⟨cs, List.prefix_append cs _, h.position⟩
  | refuseAfter expected =>
      exact ⟨cs ++ [c], ⟨rest, List.append_assoc cs [c] rest⟩, hposition⟩
  | invalidVersion decorator version => trivial

/-- **A run of the reader takes the whole text in, or stops within it**, by induction over
what is left of the text. -/
theorem State.Reads.readFrom {s : State} {cs : List Char} (h : s.Reads cs) :
    ∀ rest : List Char,
      match readFrom s rest with
      | .ok t => t.Reads (cs ++ rest)
      | .error e => PlacedIn (cs ++ rest) e
  | [] => by rwa [List.append_nil]
  | c :: rest => by
      have hstep := h.step c rest
      unfold Invocation.readFrom
      cases hs : s.step c with
      | ok t =>
          rw [hs] at hstep
          have hrest := State.Reads.readFrom hstep rest
          rwa [List.append_assoc, List.singleton_append] at hrest
      | error e =>
          rw [hs] at hstep
          exact hstep

theorem reads_of_readFrom {cs : List Char} {s : State} (h : readFrom {} cs = .ok s) :
    s.Reads cs := by
  have hrun := reads_start.readFrom cs
  rw [h] at hrun
  exact hrun

/-! ## The answer -/

theorem settled_empty : Settled "" := ⟨(fun _ hc => nomatch hc), by decide⟩

/-- The prompt found is the end of the text, and settled; an error names a place in it. -/
def Answers (cs : List Char) : Except InvocationError Prompt → Prop
  | .ok p => p.text.toList <:+ cs ∧ Settled p.text
  | .error e => PlacedIn cs e

theorem answers_finish {cs text : List Char} (s : State) (last : List Invocation)
    (hsuffix : text <:+ cs) (hsettled : Settled (String.ofList text)) :
    Answers cs (s.finish last text) :=
  ⟨by rwa [String.toList_ofList], hsettled⟩

theorem error_of_readVersion {name : String} {text : List Char} {e : InvocationError}
    (h : readVersion name text = .error e) :
    e = .invalidVersion name (String.ofList text.reverse) := by
  unfold readVersion at h
  split at h
  · cases h
  · exact (Except.error.inj h).symm

theorem State.Reads.result {s : State} {cs : List Char} (h : s.Reads cs) : Answers cs s.result := by
  have hends := h.ends
  have hnone : ∀ last, Answers cs (s.finish last []) := fun last =>
    answers_finish s last List.nil_suffix settled_empty
  have herror : ∀ expected, Answers cs (.error (.malformed s.position expected)) := fun _ =>
    ⟨cs, List.prefix_refl cs, h.position⟩
  have hplus : ∀ c, some '+' = some c → Text.isBlankChar c = false := fun c hc => by
    obtain rfl := Option.some.inj hc
    decide
  unfold State.result
  split <;> rename_i hm <;> rw [hm] at hends
  · exact hnone []
  · exact answers_finish s [] hends ⟨hplus, by decide⟩
  · exact answers_finish s [] hends ⟨hplus, by decide⟩
  · refine answers_finish s [] hends.1 ?_
    simpa using hends.2 []
  · exact herror .decoratorName
  · exact hnone _
  · split
    · exact hnone _
    · rename_i hversion
      obtain rfl := error_of_readVersion hversion
      trivial
  · exact herror _
  · exact herror _
  all_goals trivial

theorem answers_read (text : String) : Answers text.toList (Prompt.read text) := by
  unfold Prompt.read
  cases hread : readFrom {} text.toList with
  | ok s => exact (reads_of_readFrom hread).result
  | error e =>
      have hrun := reads_start.readFrom text.toList
      rw [hread] at hrun
      exact hrun

theorem read_settled {q : String} (hq : Settled q) : Prompt.read q = .ok ⟨[], q⟩ := by
  obtain ⟨m, hleads, hresult⟩ := leads_settled hq
  unfold Prompt.read
  rw [hleads 0 []]
  simp only
  rw [hresult _ rfl]
  simp [State.finish]

/-! ## Positions -/

theorem utf8ByteSize_ofList (cs : List Char) : (String.ofList cs).utf8ByteSize = width cs := by
  induction cs with
  | nil => rfl
  | cons c rest ih =>
      rw [String.ofList_cons, String.utf8ByteSize_append, String.utf8ByteSize_singleton, ih,
        width_cons]

/-- The place behind a beginning of the text is one between two characters. -/
theorem isValid_of_prefix {text : String} {before : List Char} (h : before <+: text.toList) :
    String.Pos.Raw.IsValid text ⟨width before⟩ := by
  obtain ⟨after, hafter⟩ := h
  refine String.Pos.Raw.isValid_iff_exists_append.mpr
    ⟨String.ofList before, String.ofList after, ?_, String.Pos.Raw.ext ?_⟩
  · rw [← String.ofList_append, hafter, String.ofList_toList]
  · rw [String.byteIdx_rawEndPos, utf8ByteSize_ofList]

end Invocation

open Invocation

/-- **Reading stops with an answer in its place.** Where a text can be read, the prompt is the
end of it, starts neither with a blank nor with the mark of an invocation, and is read as it
is; all names and keys found are identifiers, and what stands under a key is a flag, a number,
a text or a list of these. Where the text is malformed, the position is one between two of its
characters. -/
theorem Prompt.read_well_placed (text : String) :
    match Prompt.read text with
    | .ok p =>
      (∃ before, text = before ++ p.text) ∧ Settled p.text
        ∧ Prompt.read p.text = .ok ⟨[], p.text⟩ ∧ ∀ i ∈ p.invocations, i.WellFormed
    | .error (.malformed position _) =>
      position ≤ text.utf8ByteSize ∧ String.Pos.Raw.IsValid text ⟨position⟩
    | .error _ => True := by
  have hanswers := answers_read text
  cases hread : Prompt.read text with
  | ok p =>
      rw [hread] at hanswers
      obtain ⟨⟨before, hbefore⟩, hsettled⟩ := hanswers
      refine ⟨⟨String.ofList before, String.toList_inj.mp ?_⟩, hsettled, read_settled hsettled,
        wellFormed_of_read hread⟩
      rw [String.toList_append, String.toList_ofList, hbefore]
  | error e =>
      rw [hread] at hanswers
      cases e with
      | malformed position expected =>
          obtain ⟨before, hbefore, rfl⟩ := hanswers
          have hvalid := isValid_of_prefix hbefore
          exact ⟨hvalid.le_utf8ByteSize, hvalid⟩
      | unterminated decorator => trivial
      | invalidVersion decorator version => trivial

/-- The place is behind a character of two bytes. -/
example : Prompt.read "+++Tone(a é" = .error (.malformed 12 (.equalsSign "a")) := rfl

end Decorate
