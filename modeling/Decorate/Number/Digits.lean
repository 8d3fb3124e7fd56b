import Decorate.Number.Power

/-!
# Decimal digits

Laws of reading digits as a number: a list of digits stands for a number
below the power of ten of its length, and no two lists of one length
stand for the same number.
-/

namespace Decorate

namespace Digits

/-- The number that has already been read weighs as much as the digits to come allow. -/
theorem ofDigitChars_init :
    ∀ (cs : List Char) (init : Nat),
      Nat.ofDigitChars 10 cs init = 10 ^ cs.length * init + Nat.ofDigitChars 10 cs 0
  | [], init => by simp
  | c :: cs, init => by
    rw [Nat.ofDigitChars_cons, Nat.ofDigitChars_cons, ofDigitChars_init cs,
      ofDigitChars_init cs (10 * 0 + _), List.length_cons, Nat.pow_succ]
    simp only [Nat.mul_add, Nat.mul_assoc, Nat.mul_zero, Nat.zero_add, Nat.add_assoc]

theorem digit_lt {c : Char} (h : c.isDigit = true) : c.toNat - '0'.toNat < 10 := by
  simp only [Char.isDigit, Bool.and_eq_true, decide_eq_true_eq, UInt32.le_iff_toNat_le,
    ge_iff_le] at h
  have : c.toNat = c.val.toNat := rfl
  have : '0'.val.toNat = 48 := rfl
  have : '9'.val.toNat = 57 := rfl
  have : '0'.toNat = 48 := rfl
  omega

theorem digit_inj {c d : Char} (hc : c.isDigit = true) (hd : d.isDigit = true)
    (h : c.toNat - '0'.toNat = d.toNat - '0'.toNat) : c = d := by
  simp only [Char.isDigit, Bool.and_eq_true, decide_eq_true_eq, UInt32.le_iff_toNat_le,
    ge_iff_le] at hc hd
  have : c.toNat = c.val.toNat := rfl
  have : d.toNat = d.val.toNat := rfl
  have : '0'.val.toNat = 48 := rfl
  have : '0'.toNat = 48 := rfl
  exact Char.toNat_inj.mp (by omega)

theorem ofDigitChars_lt :
    ∀ {cs : List Char}, cs.all Char.isDigit = true → Nat.ofDigitChars 10 cs 0 < 10 ^ cs.length
  | [], _ => by simp
  | c :: cs, h => by
    have ⟨hc, hcs⟩ := Bool.and_eq_true_iff.mp (List.all_cons ▸ h)
    rw [Nat.ofDigitChars_cons, ofDigitChars_init, List.length_cons, Nat.pow_succ, Nat.mul_zero,
      Nat.zero_add]
    have := ofDigitChars_lt hcs
    have := Nat.mul_le_mul_left (10 ^ cs.length) (Nat.le_of_lt_succ (digit_lt hc))
    omega

/-- Digits of one length are told apart by their number. -/
theorem eq_of_ofDigitChars_eq :
    ∀ {cs ds : List Char}, cs.all Char.isDigit = true → ds.all Char.isDigit = true →
      cs.length = ds.length → Nat.ofDigitChars 10 cs 0 = Nat.ofDigitChars 10 ds 0 → cs = ds
  | [], [], _, _, _, _ => rfl
  | c :: cs, d :: ds, hc, hd, hl, hv => by
    have ⟨hc, hcs⟩ := Bool.and_eq_true_iff.mp (List.all_cons ▸ hc)
    have ⟨hd, hds⟩ := Bool.and_eq_true_iff.mp (List.all_cons ▸ hd)
    have hl : cs.length = ds.length := Nat.succ.inj hl
    rw [Nat.ofDigitChars_cons, Nat.ofDigitChars_cons, ofDigitChars_init cs,
      ofDigitChars_init ds, hl] at hv
    have ltc := hl ▸ ofDigitChars_lt hcs
    have ltd := ofDigitChars_lt hds
    have hdigit : 10 * 0 + (c.toNat - '0'.toNat) = 10 * 0 + (d.toNat - '0'.toNat) := by
      have := congrArg (· / 10 ^ ds.length) hv
      simpa only [Nat.mul_add_div (Nat.pow_pos (Nat.succ_pos 9)), Nat.div_eq_of_lt ltc,
        Nat.div_eq_of_lt ltd, Nat.add_zero] using this
    rw [hdigit] at hv
    rw [digit_inj hc hd (by omega), eq_of_ofDigitChars_eq hcs hds hl (Nat.add_left_cancel hv)]

end Digits

end Decorate
