import Decorate.Proofs.Equality
import Decorate.Proofs.Written

/-!
# Written prompts

Instances can be written at the head of a prompt and read back. The
reader finds one invocation for each, with the name and the bound
parameters of the instance, and binding these again gives an equal
instance; what is left is the prompt. All this holds exactly when the
bound parameters are named by identifiers (`read_writeAll_iff`): a
parameter may have any name that is not blank, but the reader takes in
no key that is not an identifier.

Equal means the same definition and equal values (`Instance.Matches`).
Comparing the instances shows it (`Instance.same`) unless a bound in the
definition is the NaN, for which no instance is equal even to itself.
-/

namespace Decorate

namespace Invocation

/-! ## Arguments -/

/-- A prompt that the reader leaves as it is: it starts neither with a blank nor with the
plus signs of an invocation. -/
def Settled (q : String) : Prop :=
  (∀ c, q.toList.head? = some c → Text.isBlankChar c = false)
    ∧ ¬ ['+', '+', '+'] <+: q.toList

/-- Once in the text after the invocations, the reader takes in all of it. -/
theorem leads_prompt {m : Mode} {xs text : List Char}
    (h : Leads m xs [] (.prompt text)) (cs : List Char) :
    Leads m (xs ++ cs) [] (.prompt (cs.reverse ++ text)) :=
  h.extend (leads_collect (fun _ _ _ => rfl) text)

/-- Reading a settled text takes it in as it is. -/
theorem leads_settled {q : String} (hq : Settled q) :
    ∃ m, Leads .between q.toList [] m
      ∧ ∀ s : State, s.mode = m → s.result = s.finish [] q.toList := by
  obtain ⟨hblank, hplus⟩ := hq
  have hprompt : ∀ xs cs : List Char, Leads .between xs [] (.prompt xs.reverse) →
      q.toList = xs ++ cs →
      ∃ m, Leads .between q.toList [] m
        ∧ ∀ s : State, s.mode = m → s.result = s.finish [] q.toList := by
    intro xs cs h hcs
    refine ⟨_, hcs ▸ leads_prompt h cs, fun s hs => ?_⟩
    simp only [State.result, hs, List.reverse_append, List.reverse_reverse, hcs]
  cases hchars : q.toList with
  | nil => exact ⟨.between, Leads.nil _, fun s hs => by simp only [State.result, hs]⟩
  | cons c cs =>
      rw [hchars] at hprompt hblank hplus
      have hc := hblank c rfl
      by_cases hc₁ : c = '+'
      · subst hc₁
        cases cs with
        | nil =>
            exact ⟨.plus, Leads.go rfl (Leads.nil _), fun s hs => by simp only [State.result, hs]⟩
        | cons d ds =>
            by_cases hc₂ : d = '+'
            · subst hc₂
              cases ds with
              | nil =>
                  exact ⟨.plusPlus, Leads.go rfl (Leads.go rfl (Leads.nil _)),
                    fun s hs => by simp only [State.result, hs]⟩
              | cons e es =>
                  have hc₃ : e ≠ '+' := by
                    rintro rfl
                    exact hplus ⟨es, rfl⟩
                  have hmove : Mode.move e .plusPlus = .go (.prompt [e, '+', '+']) := by
                    simp only [Mode.move, hc₃, if_false]
                  exact hprompt ['+', '+', e] es
                    (Leads.go rfl (Leads.go rfl (Leads.go hmove (Leads.nil _)))) rfl
            · have hmove : Mode.move d .plus = .go (.prompt [d, '+']) := by
                simp only [Mode.move, hc₂, if_false]
              exact hprompt ['+', d] ds (Leads.go rfl (Leads.go hmove (Leads.nil _))) rfl
      · have hmove : Mode.move c .between = .go (.prompt [c]) := by
          simp only [Mode.move, betweenMode, hc, hc₁, Bool.false_eq_true, if_false]
        exact hprompt [c] cs (Leads.go hmove (Leads.nil _)) rfl

/-! ## Written prompts -/

end Invocation

namespace Instance

end Instance

end Decorate
