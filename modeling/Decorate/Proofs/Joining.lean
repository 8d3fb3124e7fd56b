import Decorate.Proofs.Stopping

/-!
# Prompts joined at a line break

A text that consists of invocations only can be put on lines of its own
in front of any other text: what is read of the two is what is read of
the one followed by what is read of the other, and an error of the
second moves by the bytes in front of it (`read_joined`).

What was read before plays no part in how the reader goes on; it only
comes first in the answer (`State.behind`). And wherever a text of
invocations ends, the line break completes the last one
(`step_lineBreak`).
-/

namespace Decorate

/-- The error of a text that has so many bytes in front of it. -/
def InvocationError.shifted (offset : Nat) : InvocationError → InvocationError
  | malformed position expected => malformed (offset + position) expected
  | unterminated decorator => unterminated decorator
  | invalidVersion decorator version => invalidVersion decorator version

/-- The prompt with more invocations in front. -/
def Prompt.behind (earlier : List Invocation) (p : Prompt) : Prompt :=
  { p with invocations := earlier ++ p.invocations }

namespace Invocation

/-! ## What was read before -/

/-- The state of a reader that has found invocations, the last one first, in so many bytes in
front of the text. -/
def State.behind (earlier : List Invocation) (offset : Nat) (s : State) : State :=
  { s with position := offset + s.position, done := s.done ++ earlier }

variable {earlier : List Invocation} {offset : Nat}

@[simp] theorem State.behind_mode (s : State) : (s.behind earlier offset).mode = s.mode := rfl

theorem step_behind (s : State) (c : Char) :
    (s.behind earlier offset).step c
      = ((s.step c).map (State.behind earlier offset)).mapError
          (InvocationError.shifted offset) := by
  have hposition : offset + s.position + c.utf8Size = offset + (s.position + c.utf8Size) :=
    Nat.add_assoc _ _ _
  unfold State.step
  rw [State.behind_mode]
  cases s.mode.move c with
  | go mode => simp only [State.behind, hposition, Except.map, Except.mapError]
  | complete invocation mode =>
      simp only [State.behind, hposition, Except.map, Except.mapError, List.cons_append]
  | refuse expected => rfl
  | refuseAfter expected =>
      simp only [State.behind, hposition, Except.map, Except.mapError, InvocationError.shifted]
  | invalidVersion decorator version => rfl

theorem readFrom_behind :
    ∀ (cs : List Char) (s : State),
      readFrom (s.behind earlier offset) cs
        = ((readFrom s cs).map (State.behind earlier offset)).mapError
            (InvocationError.shifted offset)
  | [], s => rfl
  | c :: rest, s => by
      simp only [readFrom, step_behind]
      cases s.step c with
      | ok t => exact readFrom_behind rest t
      | error e => rfl

theorem finish_behind (s : State) (last : List Invocation) (text : List Char) :
    (s.behind earlier offset).finish last text
      = (s.finish last text).map (Prompt.behind earlier.reverse) := by
  simp only [State.finish, State.behind, Prompt.behind, Except.map, List.reverse_append,
    List.append_assoc]

theorem result_behind (s : State) :
    (s.behind earlier offset).result
      = (s.result.map (Prompt.behind earlier.reverse)).mapError
          (InvocationError.shifted offset) := by
  unfold State.result
  rw [State.behind_mode]
  split
  case h_7 name text _ =>
    split
    · rw [finish_behind]
      rfl
    · rename_i e hversion
      obtain rfl := error_of_readVersion hversion
      rfl
  all_goals first | rfl | (rw [finish_behind]; rfl)

/-- What is made of a text by a reader in the state. -/
def answerFrom (s : State) (cs : List Char) : Except InvocationError Prompt :=
  match readFrom s cs with
  | .ok t => t.result
  | .error e => .error e

/-- **What was read before only comes first in the answer.** -/
theorem answerFrom_behind (s : State) (cs : List Char) :
    answerFrom (s.behind earlier offset) cs
      = ((answerFrom s cs).map (Prompt.behind earlier.reverse)).mapError
          (InvocationError.shifted offset) := by
  unfold answerFrom
  rw [readFrom_behind]
  cases readFrom s cs with
  | ok t => exact result_behind t
  | error e => rfl

theorem answerFrom_append {s t : State} {xs : List Char} (h : readFrom s xs = .ok t)
    (ys : List Char) : answerFrom s (xs ++ ys) = answerFrom t ys := by
  unfold answerFrom
  rw [readFrom_append, h, Except.bind]

theorem answerFrom_cons {s t : State} {c : Char} (h : s.step c = .ok t) (cs : List Char) :
    answerFrom s (c :: cs) = answerFrom t cs := by
  unfold answerFrom
  rw [readFrom, h]

/-! ## The line break -/

theorem endHead_lineBreak (name : String) (version : Option Version) :
    endHead name version '\n' = .complete ⟨name, version, []⟩ .between := rfl

/-- **A line break ends a text of invocations.** Where the text could end without a prompt, the
reader goes on as it started, with the invocations of the text. -/
theorem step_lineBreak {s : State} {cs : List Char} (h : s.Reads cs) {p : Prompt}
    (hresult : s.result = .ok p) (hempty : p.text = "") :
    s.step '\n' = .ok ⟨s.position + 1, p.invocations.reverse, .between⟩ := by
  have hfinish : ∀ {last : List Invocation} {text : List Char}, s.finish last text = .ok p →
      text = [] ∧ p.invocations.reverse = last.reverse ++ s.done := by
    intro last text hp
    obtain rfl := Except.ok.inj hp
    refine ⟨by simpa using congrArg String.toList hempty, ?_⟩
    rw [List.reverse_append, List.reverse_reverse]
  have hname : Name.isNameChar '\n' = false := by decide
  have hversionChar : isVersionChar '\n' = false := by decide
  have hat : '\n' ≠ '@' := by decide
  have hends := h.ends
  unfold State.result at hresult
  unfold State.step
  split at hresult <;> rename_i hm <;> rw [hm] at hends ⊢
  · rw [(hfinish hresult).2]
    rfl
  · cases (hfinish hresult).1
  · cases (hfinish hresult).1
  · -- a prompt that has begun is not empty: it would not be settled if a blank followed
    have hsettled := hends.2 ['\n']
    rw [(hfinish hresult).1] at hsettled
    have hblank := hsettled.1 '\n' rfl
    cases hblank
  · cases hresult
  · rename_i text hne
    have hne : text ≠ [] := fun hnil => hne hnil
    rw [(hfinish hresult).2]
    simp only [Mode.move, hname, Bool.false_eq_true, if_false, hne, hat, endHead_lineBreak]
    rfl
  · split at hresult
    · rename_i v hv
      rw [(hfinish hresult).2]
      simp only [Mode.move, hversionChar, Bool.false_eq_true, if_false, hv, endHead_lineBreak]
      rfl
    · cases hresult
  all_goals cases hresult

end Invocation

open Invocation

/-- **Invocations can be put on lines in front of any text.** Where a text is read as
invocations and no prompt, reading it with another text on the next line finds its invocations
in front of what is found in the other, or fails as the other does, at a position moved by the
bytes in front. -/
theorem Prompt.read_joined {s t : String} {p : Prompt} (h : Prompt.read s = .ok p)
    (hempty : p.text = "") :
    Prompt.read (s ++ "\n" ++ t)
      = match Prompt.read t with
        | .ok q => .ok ⟨p.invocations ++ q.invocations, q.text⟩
        | .error e => .error (e.shifted (s.utf8ByteSize + 1)) := by
  have htext : (s ++ "\n" ++ t).toList = s.toList ++ '\n' :: t.toList := by
    rw [String.toList_append, String.toList_append, List.append_assoc]
    rfl
  cases hread : readFrom {} s.toList with
  | error e =>
      unfold Prompt.read at h
      rw [hread] at h
      cases h
  | ok s₁ =>
      unfold Prompt.read at h
      rw [hread] at h
      have hreads := reads_of_readFrom hread
      have hposition : s₁.position = s.utf8ByteSize := by
        rw [hreads.position, ← utf8ByteSize_ofList, String.ofList_toList]
      have hbreak := step_lineBreak hreads h hempty
      rw [hposition] at hbreak
      -- behind the line break the reader is at the start, with what it has found
      have hstart : (⟨s.utf8ByteSize + 1, p.invocations.reverse, .between⟩ : State)
          = State.behind p.invocations.reverse (s.utf8ByteSize + 1) {} := rfl
      calc Prompt.read (s ++ "\n" ++ t)
          = answerFrom {} (s.toList ++ '\n' :: t.toList) := by rw [← htext]; rfl
        _ = answerFrom s₁ ('\n' :: t.toList) := answerFrom_append hread _
        _ = answerFrom (State.behind p.invocations.reverse (s.utf8ByteSize + 1) {}) t.toList := by
            rw [answerFrom_cons hbreak, hstart]
        _ = ((Prompt.read t).map (Prompt.behind p.invocations)).mapError
              (InvocationError.shifted (s.utf8ByteSize + 1)) := by
            rw [answerFrom_behind, List.reverse_reverse]
            rfl
        _ = _ := by cases Prompt.read t <;> rfl

/-- Behind 21 bytes and the line break, the place of a missing name moves from 12 to 34. -/
theorem Prompt.read_joined_tone :
    ∃ p, Prompt.read "+++Tone(style=formal)" = .ok p ∧ p.text = ""
      ∧ Prompt.read "+++Audience(=)" = .error (.malformed 12 .parameterName)
      ∧ Prompt.read ("+++Tone(style=formal)" ++ "\n" ++ "+++Audience(=)")
          = .error (.malformed 34 .parameterName)
      ∧ Prompt.read ("+++Tone(style=formal)" ++ "\n" ++ "+++Summary Why?")
          = .ok ⟨p.invocations ++ [{ name := "Summary" }], "Why?"⟩ := by
  have hread : Prompt.read "+++Tone(style=formal)"
      = .ok ⟨[{ name := "Tone", parameters := [("style", .str "formal")] }], ""⟩ := rfl
  exact ⟨_, hread, rfl, rfl, Prompt.read_joined hread rfl, Prompt.read_joined hread rfl⟩

end Decorate
