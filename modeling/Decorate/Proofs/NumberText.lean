import Decorate.Json.Number
import Decorate.Number.Digits
import Decorate.Number.Numeral

/-!
# Number texts read back

`Binary64.plain` loses nothing: the text that it writes reads as a
numeral for the very number it was written for (`real?_plain`), and
where it also reads as an integer, the integer converts to a number
that is equal to it (`same_of_integer?_plain`) - equal and not the same,
since integers have no negative zero.

The argument goes through decimals. The digits that are written stand
for a decimal that reads back: either the search for the shortest one
found it, and it finds nothing that does not read back, or it is the
exact expansion, which needs no rounding (`readsBack_shortest`).
Reading the digits gives that decimal again, except that a decimal with
a positive exponent comes back with its zeros spelt out (`spelt`), which
makes no difference to the number (`ofDecimal?_spelt`).
-/

namespace Decorate

/-! ## Digits -/

theorem toDigits_all_isDigit (n : Nat) : (Nat.toDigits 10 n).all Char.isDigit = true :=
  List.all_eq_true.mpr fun _ h => Nat.isDigit_of_mem_toDigits (by decide) (by decide) h

/-- Multiplying by a power of ten appends zeros. -/
theorem toDigits_mul_pow {n : Nat} (hn : 0 < n) :
    ∀ e : Nat, Nat.toDigits 10 (n * 10 ^ e) = Nat.toDigits 10 n ++ Decimal.zeros e
  | 0 => by simp [Decimal.zeros]
  | e + 1 => by
      have hpos : 0 < n * 10 ^ e := Nat.mul_pos hn (Nat.pow_pos (by decide))
      have hsplit : n * 10 ^ (e + 1) = 10 * (n * 10 ^ e) + 0 := by
        rw [Nat.pow_succ, Nat.add_zero, ← Nat.mul_assoc, Nat.mul_comm 10]
      rw [hsplit, ← Nat.toDigits_append_toDigits (by decide) hpos (by decide),
        toDigits_mul_pow hn e, Nat.toDigits_zero, List.append_assoc, Decimal.zeros, Decimal.zeros,
        List.replicate_succ']

/-- Digits are written without leading zeros. -/
theorem toDigits_ne_zero_cons (n : Nat) (c : Char) (cs : List Char) :
    Nat.toDigits 10 n ≠ '0' :: c :: cs := by
  intro h
  have hall : ('0' :: c :: cs).all Char.isDigit = true := h ▸ toDigits_all_isDigit n
  have hvalue : Nat.ofDigitChars 10 ('0' :: c :: cs) 0 = n := by
    rw [← h, Nat.ofDigitChars_ten_toDigits]
  have hlt : n < 10 ^ (c :: cs).length := by
    rw [← hvalue]
    exact Digits.ofDigitChars_lt (Bool.and_eq_true_iff.mp (List.all_cons ▸ hall)).2
  have hle := (Nat.length_toDigits_le_iff (by decide) (Nat.succ_pos _)).mpr hlt
  rw [h] at hle
  exact Nat.not_succ_le_self _ hle

theorem takeWhile_isDigit_append {ds : List Char} (rest : List Char)
    (hds : ds.all Char.isDigit = true) (hrest : ∀ c, rest.head? = some c → c.isDigit = false) :
    (ds ++ rest).takeWhile Char.isDigit = ds ∧ (ds ++ rest).dropWhile Char.isDigit = rest := by
  have hall := List.all_eq_true.mp hds
  rw [List.takeWhile_append_of_pos hall, List.dropWhile_append_of_pos hall]
  cases rest with
  | nil => simp
  | cons c cs => simp [hrest c rfl]

/-! ## Decimals -/

namespace Decimal

/-- The decimal that is read where this one is written: a positive exponent is spelt out
in zeros. -/
def spelt (d : Decimal) : Decimal :=
  if 0 ≤ d.exponent then ⟨d.digits * 10 ^ d.exponent.toNat, 0⟩ else d

theorem digitChars_ne_nil (d : Decimal) : d.digitChars ≠ [] := Nat.toDigits_ne_nil

theorem ofDigitChars_digitChars (d : Decimal) : Nat.ofDigitChars 10 d.digitChars 0 = d.digits :=
  Nat.ofDigitChars_ten_toDigits

theorem zeros_all_isDigit (n : Nat) : (zeros n).all Char.isDigit = true := by
  simp [zeros]

/-- Only a decimal with a negative exponent is written with a point. -/
theorem positional_eq (d : Decimal) :
    (0 ≤ d.exponent ∧ d.positional = d.digitChars ++ zeros d.exponent.toNat)
      ∨ (d.exponent < 0 ∧ ∃ whole fraction : List Char,
          d.positional = whole ++ '.' :: fraction ∧ whole ≠ []
            ∧ whole.all Char.isDigit = true ∧ fraction.all Char.isDigit = true
            ∧ Nat.ofDigitChars 10 (whole ++ fraction) 0 = d.digits
            ∧ d.exponent = -(fraction.length : Int)) := by
  have hall : d.digitChars.all Char.isDigit = true := toDigits_all_isDigit d.digits
  unfold positional
  simp only
  by_cases h : 0 ≤ d.exponent
  · exact Or.inl ⟨h, if_pos h⟩
  · refine Or.inr ⟨by omega, ?_⟩
    rw [if_neg h]
    by_cases hp : (-d.exponent).toNat < d.digitChars.length
    · rw [if_pos hp]
      refine ⟨_, _, rfl, ?_, ?_, ?_, ?_, ?_⟩
      · intro hnil
        have := congrArg List.length hnil
        simp only [List.length_take, List.length_nil] at this
        omega
      · exact List.all_eq_true.mpr fun c hc => List.all_eq_true.mp hall c (List.mem_of_mem_take hc)
      · exact List.all_eq_true.mpr fun c hc => List.all_eq_true.mp hall c (List.mem_of_mem_drop hc)
      · rw [List.take_append_drop, ofDigitChars_digitChars]
      · rw [List.length_drop]
        omega
    · rw [if_neg hp]
      refine ⟨['0'], _, rfl, by simp, by decide, ?_, ?_, ?_⟩
      · rw [List.all_append, zeros_all_isDigit, hall, Bool.and_self]
      · have hzero : Nat.ofDigitChars 10 ['0'] 0 = 0 := by decide
        rw [Nat.ofDigitChars_append, Nat.ofDigitChars_append, hzero, zeros,
          Nat.ofDigitChars_replicate_zero, Nat.mul_zero, ofDigitChars_digitChars]
      · simp only [List.length_append, zeros, List.length_replicate]
        omega

/-- The digits written for a decimal read as that decimal. -/
theorem decimal?_positional (d : Decimal) : Numeral.decimal? d.positional = some d.spelt := by
  rcases positional_eq d with ⟨h, hp⟩ | ⟨h, whole, fraction, hp, hne, hw, hf, hv, he⟩
  · have hall : d.positional.all Char.isDigit = true := by
      rw [hp, List.all_append, zeros_all_isDigit, Bool.and_true]
      exact toDigits_all_isDigit d.digits
    obtain ⟨htake, hdrop⟩ := takeWhile_isDigit_append [] hall (by simp)
    rw [List.append_nil] at htake hdrop
    have hne : d.positional ≠ [] := by
      rw [hp]
      simp [digitChars_ne_nil]
    unfold Numeral.decimal?
    simp only [htake, hdrop, Numeral.exponent?, hne, false_and, if_false, Option.map_some,
      List.append_nil, List.length_nil, spelt, if_pos h]
    rw [hp, Nat.ofDigitChars_append, ofDigitChars_digitChars, zeros,
      Nat.ofDigitChars_replicate_zero, Nat.mul_comm]
    rfl
  · obtain ⟨htake, hdrop⟩ := takeWhile_isDigit_append ('.' :: fraction) hw (by simp)
    obtain ⟨hftake, hfdrop⟩ := takeWhile_isDigit_append [] hf (by simp)
    rw [List.append_nil] at hftake hfdrop
    unfold Numeral.decimal?
    simp only [hp, htake, hdrop, hftake, hfdrop, Numeral.exponent?, hne, false_and, if_false,
      Option.map_some, hv, spelt, if_neg (show ¬ 0 ≤ d.exponent by omega)]
    cases d
    simp only at he
    simp [he]

/-- Spelling out the zeros does not change the magnitude. -/
theorem magnitude_spelt {d : Decimal} (h : d.digits ≠ 0) : d.spelt.magnitude = d.magnitude := by
  unfold spelt
  by_cases he : 0 ≤ d.exponent
  · have hlen : (Nat.toDigits 10 (d.digits * 10 ^ d.exponent.toNat)).length
        = (Nat.toDigits 10 d.digits).length + d.exponent.toNat := by
      rw [toDigits_mul_pow (Nat.pos_of_ne_zero h)]
      simp [zeros]
    rw [if_pos he]
    simp only [magnitude, digitChars, hlen]
    omega
  · rw [if_neg he]

end Decimal

namespace Binary64

/-! ## Rounding -/

/-- A decimal that is not zero and neither too small nor too large is read by rounding. -/
theorem ofDecimal?_of_magnitude {negative : Bool} {d : Decimal} (hd : d.digits ≠ 0)
    (hlow : decimalUnderflow ≤ d.magnitude) (hhigh : d.magnitude ≤ decimalOverflow) :
    ofDecimal? negative d = roundQuotient negative d.numerator d.denominator := by
  unfold ofDecimal?
  rw [if_neg (by omega), if_neg (by omega)]

/-- A decimal reads as the same number with its zeros spelt out. -/
theorem ofDecimal?_spelt (negative : Bool) (d : Decimal) :
    ofDecimal? negative d.spelt = ofDecimal? negative d := by
  by_cases hd : d.digits = 0
  · have hs : d.spelt.digits = 0 := by
      unfold Decimal.spelt
      split
      · simp [hd]
      · exact hd
    simp [ofDecimal?, hd, hs]
  · have hs : d.spelt.digits ≠ 0 := by
      unfold Decimal.spelt
      split
      · exact Nat.mul_ne_zero hd (Nat.ne_of_gt (Nat.pow_pos (by decide)))
      · exact hd
    have hnum : d.spelt.numerator = d.numerator ∧ d.spelt.denominator = d.denominator := by
      unfold Decimal.spelt
      split
      · rename_i he
        have hneg : (-d.exponent).toNat = 0 := by omega
        simp [Decimal.numerator, Decimal.denominator, hneg]
      · exact ⟨rfl, rfl⟩
    simp only [ofDecimal?, hd, hs, false_or, Decimal.magnitude_spelt hd, hnum.1, hnum.2]

/-- A quotient that comes out even is not rounded. -/
theorem divideToEven_mul {n den : Nat} (hden : 0 < den) : divideToEven (n * den) den = n := by
  simp [divideToEven, Nat.mul_div_cancel n hden, hden]

/-- A quotient that is exactly a count of units gives the number with that count. -/
theorem roundQuotient_exact {x : Binary64} {num den : Nat} (hden : 0 < den)
    (h : num * unitsPerOne = x.units * den) :
    roundQuotient x.negative num den = some x := by
  obtain ⟨k, hk⟩ := x.representable.1
  have hstep : 0 < 2 ^ scale x.units := Nat.two_pow_pos _
  have hround : divideToEven (x.units * den) (den * 2 ^ scale x.units) = k := by
    have hprod : x.units * den = k * (den * 2 ^ scale x.units) := by
      conv => lhs; rw [hk]
      rw [Nat.mul_comm (2 ^ _) k, Nat.mul_assoc, Nat.mul_comm (2 ^ _) den]
    rw [hprod, divideToEven_mul (Nat.mul_pos hden hstep)]
  have hunits : k * 2 ^ scale x.units = x.units := by
    rw [Nat.mul_comm]
    exact hk.symm
  simp only [roundQuotient, h, Nat.mul_div_cancel _ hden, hround, hunits, ofUnits?,
    x.representable, dite_true]

/-! ## The exact expansion -/

theorem length_toDigits_lt {n k : Nat} (hk : 0 < k) (h : 10 ^ k ≤ n) :
    k < (Nat.toDigits 10 n).length := by
  refine Nat.lt_of_not_le fun hle => ?_
  have := (Nat.length_toDigits_le_iff (by decide) hk).mp hle
  omega

theorem magnitude_exact {x : Binary64} (hx : x.units ≠ 0) :
    decimalUnderflow ≤ x.exact.magnitude ∧ x.exact.magnitude ≤ decimalOverflow := by
  have hlow : 744 < (Nat.toDigits 10 (x.units * 5 ^ unitExponent)).length := by
    have hle := Nat.le_mul_of_pos_left (5 ^ unitExponent) (Nat.pos_of_ne_zero hx)
    refine length_toDigits_lt (by decide) (Nat.le_trans ?_ hle)
    decide +kernel
  have hhigh : (Nat.toDigits 10 (x.units * 5 ^ unitExponent)).length ≤ 1384 := by
    have hle := Nat.mul_le_mul_right (5 ^ unitExponent) (Nat.le_of_lt x.representable.2)
    refine (Nat.length_toDigits_le_iff (by decide) (by decide)).mpr (Nat.lt_of_le_of_lt hle ?_)
    decide +kernel
  simp only [Decimal.magnitude, Decimal.digitChars, exact, decimalUnderflow, decimalOverflow,
    unitExponent] at hlow hhigh ⊢
  omega

theorem readsBack_exact {x : Binary64} (hx : x.units ≠ 0) : readsBack x x.exact = true := by
  have ⟨hlow, hhigh⟩ := magnitude_exact hx
  have hdigits : x.exact.digits ≠ 0 := Nat.mul_ne_zero hx (by decide +kernel)
  have hvalue : x.exact.numerator * unitsPerOne = x.units * x.exact.denominator := by
    simp only [Decimal.numerator, Decimal.denominator, exact, unitsPerOne]
    rw [show (-(unitExponent : Int)).toNat = 0 by decide,
      show (-(-(unitExponent : Int))).toNat = unitExponent by decide, Nat.pow_zero, Nat.mul_one,
      Nat.mul_assoc, ← Nat.mul_pow]
  have hden : 0 < x.exact.denominator := Nat.pow_pos (by decide)
  unfold readsBack
  rw [ofDecimal?_of_magnitude hdigits hlow hhigh, roundQuotient_exact hden hvalue, beq_self_eq_true]

/-- The decimal that is written for a number reads back as it, the two zeros apart. -/
theorem readsBack_shortest (tie : Tie) {x : Binary64} (hx : x.units ≠ 0) :
    readsBack x (x.shortest tie) = true := by
  unfold shortest
  rw [if_neg hx]
  cases h : searchGrids tie x 20 x.topExponent with
  | none => exact readsBack_exact hx
  | some d => exact readsBack_of_searchGrids h

theorem ofDecimal?_shortest (tie : Tie) (x : Binary64) :
    ofDecimal? x.negative (x.shortest tie) = some x := by
  by_cases hx : x.units = 0
  · obtain ⟨negative, units, _⟩ := x
    subst hx
    rfl
  · exact eq_of_beq (readsBack_shortest tie hx)

/-! ## Plain texts -/

/-- A text that starts with a digit is neither signed nor one of the words for what is
not finite. -/
theorem real?_of_isDigit {c : Char} {cs : List Char} (hc : c.isDigit = true) :
    Numeral.splitSign (c :: cs) = (false, c :: cs)
      ∧ Numeral.isUnboundedWord (c :: cs) = false := by
  have hne : ∀ d : Char, d.isDigit = false → c ≠ d := by
    rintro d hd rfl
    rw [hc] at hd
    cases hd
  constructor
  · unfold Numeral.splitSign
    split
    · rename_i h
      exact absurd (List.cons.inj h).1 (hne '-' (by decide))
    · rename_i h
      exact absurd (List.cons.inj h).1 (hne '+' (by decide))
    · rfl
  · have hlower : c.toLower = c := by
      unfold Char.toLower
      simp only [Char.isDigit, Bool.and_eq_true, decide_eq_true_eq] at hc
      split
      · rename_i h
        exact absurd (Nat.le_trans h.1 hc.2) (by decide)
      · rfl
    simp only [Numeral.isUnboundedWord, List.map_cons, hlower, Bool.or_eq_false_iff,
      beq_eq_false_iff_ne, ne_eq]
    refine ⟨⟨?_, ?_⟩, ?_⟩ <;> intro h <;>
      · have h := congrArg (fun s : String => s.toList.head?) h
        simp only [String.toList_ofList, List.head?_cons] at h
        exact hne _ (by decide) (Option.some.inj h)

/-- What is written for a magnitude starts with a digit. -/
theorem positional_eq_cons (d : Decimal) :
    ∃ c cs, d.positional = c :: cs ∧ c.isDigit = true := by
  rcases d.positional_eq with ⟨-, hp⟩ | ⟨-, whole, fraction, hp, hne, hw, -⟩
  · obtain ⟨c, cs, hd⟩ := List.exists_cons_of_ne_nil d.digitChars_ne_nil
    have hall : d.digitChars.all Char.isDigit = true := toDigits_all_isDigit d.digits
    rw [hd, List.all_cons, Bool.and_eq_true] at hall
    exact ⟨c, _, by rw [hp, hd, List.cons_append], hall.1⟩
  · obtain ⟨c, cs, rfl⟩ := List.exists_cons_of_ne_nil hne
    rw [List.all_cons, Bool.and_eq_true] at hw
    exact ⟨c, _, hp, hw.1⟩

/-- The sign of a number splits off its text. -/
theorem splitSign_plain (x : Binary64) :
    Numeral.splitSign x.plain.toList = (x.negative, (x.shortest .up).positional) := by
  obtain ⟨c, cs, hp, hc⟩ := positional_eq_cons (x.shortest .up)
  unfold plain signed
  rw [hp, String.toList_ofList]
  cases x.negative with
  | true => rfl
  | false => exact (real?_of_isDigit hc).1

/-- **A number reads back from its text.** -/
theorem real?_plain (x : Binary64) : Numeral.real? x.plain.toList = some (.finite x) := by
  have hword : Numeral.isUnboundedWord (x.shortest .up).positional = false := by
    obtain ⟨c, cs, hp, hc⟩ := positional_eq_cons (x.shortest .up)
    rw [hp]
    exact (real?_of_isDigit hc).2
  unfold Numeral.real?
  simp only [splitSign_plain, hword, Bool.false_eq_true, if_false, Decimal.decimal?_positional,
    Option.map_some, ofDecimal?_spelt, ofDecimal?_shortest]

/-- Digits alone are written for decimals without a negative exponent only. -/
theorem spelt_of_all_isDigit {d : Decimal} (h : d.positional.all Char.isDigit = true) :
    d.spelt = ⟨d.digits * 10 ^ d.exponent.toNat, 0⟩
      ∧ Nat.ofDigitChars 10 d.positional 0 = d.digits * 10 ^ d.exponent.toNat := by
  rcases d.positional_eq with ⟨he, hp⟩ | ⟨-, whole, fraction, hp, -⟩
  · refine ⟨if_pos he, ?_⟩
    rw [hp, Nat.ofDigitChars_append, Decimal.ofDigitChars_digitChars, Decimal.zeros,
      Nat.ofDigitChars_replicate_zero, Nat.mul_comm]
  · rw [hp] at h
    simp at h

/-- A number that reads back from a whole decimal is the rounded integer, up to the sign
of zero. -/
theorem same_of_ofDecimal?_whole {x : Binary64} {n : Nat}
    (h : ofDecimal? x.negative ⟨n, 0⟩ = some x) :
    ∃ y, ofInt? (if x.negative then -(n : Int) else n) = some y ∧ y.same x = true := by
  by_cases hn : n = 0
  · subst hn
    have hx : 0 = x.units := congrArg units (Option.some.inj h)
    refine ⟨zero, ?_, by simp [same, toInt, zero, ← hx]⟩
    simp only [Int.natCast_zero, Int.neg_zero, ite_self]
    decide +kernel
  · have hlow : decimalUnderflow ≤ (⟨n, 0⟩ : Decimal).magnitude := by
      simp only [Decimal.magnitude, decimalUnderflow]
      omega
    have hround : roundQuotient x.negative n 1 = some x := by
      unfold ofDecimal? at h
      rw [if_neg (not_or.mpr ⟨hn, Int.not_lt.mpr hlow⟩)] at h
      split at h
      · cases h
      · simpa [Decimal.numerator, Decimal.denominator] using h
    refine ⟨x, ?_, same_self x⟩
    cases hx : x.negative with
    | true =>
        rw [hx] at hround
        have hneg : decide (-(n : Int) < 0) = true := by simpa using Nat.pos_of_ne_zero hn
        simp only [if_true, ofInt?, ofNat?, hneg, Int.natAbs_neg, Int.natAbs_natCast, hround]
    | false =>
        rw [hx] at hround
        have hpos : decide ((n : Int) < 0) = false := by simp
        simp only [Bool.false_eq_true, if_false, ofInt?, ofNat?, hpos, Int.natAbs_natCast, hround]

/-- **Where the text of a number reads as an integer, the integer is equal to it.** -/
theorem same_of_integer?_plain {x : Binary64} {i : Int}
    (h : Numeral.integer? x.plain.toList = some i) :
    ∃ y, ofInt? i = some y ∧ y.same x = true := by
  unfold Numeral.integer? at h
  simp only [splitSign_plain] at h
  split at h
  · rename_i hdigits
    obtain ⟨hspelt, hvalue⟩ := spelt_of_all_isDigit hdigits.2
    have hread : ofDecimal? x.negative (x.shortest .up).spelt = some x := by
      rw [ofDecimal?_spelt, ofDecimal?_shortest]
    rw [hspelt] at hread
    rw [← Option.some.inj h, hvalue]
    exact same_of_ofDecimal?_whole hread
  · cases h

/-- The characters that numbers are written with. -/
theorem mem_plain {x : Binary64} {c : Char} (h : c ∈ x.plain.toList) :
    c.isDigit = true ∨ c = '.' ∨ c = '-' := by
  have hpos : ∀ c ∈ (x.shortest .up).positional, c.isDigit = true ∨ c = '.' := by
    intro c hc
    rcases (x.shortest .up).positional_eq with ⟨-, hp⟩ | ⟨-, whole, fraction, hp, -, hw, hf, -⟩
    · rw [hp] at hc
      rcases List.mem_append.mp hc with hc | hc
      · exact Or.inl (List.all_eq_true.mp (toDigits_all_isDigit _) c hc)
      · exact Or.inl (List.all_eq_true.mp (Decimal.zeros_all_isDigit _) c hc)
    · rw [hp] at hc
      rcases List.mem_append.mp hc with hc | hc
      · exact Or.inl (List.all_eq_true.mp hw c hc)
      · rcases List.mem_cons.mp hc with rfl | hc
        · exact Or.inr rfl
        · exact Or.inl (List.all_eq_true.mp hf c hc)
  unfold plain signed at h
  rw [String.toList_ofList] at h
  split at h
  · rcases List.mem_cons.mp h with rfl | h
    · exact Or.inr (Or.inr rfl)
    · exact (hpos c h).imp_right Or.inl
  · exact (hpos c h).imp_right Or.inl

theorem plain_ne_nil (x : Binary64) : x.plain.toList ≠ [] := by
  obtain ⟨c, cs, hp, -⟩ := positional_eq_cons (x.shortest .up)
  unfold plain signed
  rw [hp, String.toList_ofList]
  split <;> simp

end Binary64

/-- What reads as an integer reads as a real number as well. -/
theorem Numeral.isSome_real?_of_integer? {cs : List Char} {i : Int}
    (h : Numeral.integer? cs = some i) : (Numeral.real? cs).isSome = true := by
  unfold Numeral.integer? at h
  simp only at h
  split at h
  · rename_i hdigits
    obtain ⟨hne, hall⟩ := hdigits
    obtain ⟨htake, hdrop⟩ := takeWhile_isDigit_append [] hall (by simp)
    rw [List.append_nil] at htake hdrop
    unfold Numeral.real?
    simp only
    split
    · rfl
    · unfold Numeral.decimal?
      simp [htake, hdrop, hne, Numeral.exponent?]
  · cases h

end Decorate
