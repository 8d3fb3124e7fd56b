import Decorate.Number.Digits

/-!
# Version segments

The tags of a version are made of segments: words of ASCII letters,
digits and hyphens, none of them empty. A segment of digits alone counts
as a number.

Numbers come before words. Numbers are ordered by value, and two
spellings of one value by their length, as leading zeros are possible;
words are ordered as text. The order is total, and segments that compare
as equal are equal.
-/

namespace Decorate

namespace Segment

def isSegmentChar (c : Char) : Bool := c.isAlphanum || c == '-'

end Segment

structure Segment where
  chars : List Char
  nonempty : chars ≠ []
  valid : chars.all Segment.isSegmentChar = true
deriving DecidableEq, Repr

namespace Segment

def text (s : Segment) : String := String.ofList s.chars

def isNumeric (s : Segment) : Bool := s.chars.all Char.isDigit

/-- The value of a numeric segment; words have none to speak of. -/
def value (s : Segment) : Nat := Nat.ofDigitChars 10 s.chars 0

/-- Holds of numbers of several digits that start with a zero. -/
def hasLeadingZero (s : Segment) : Bool :=
  s.isNumeric && s.chars.length > 1 && s.chars.head? == some '0'

/-! ## Order -/

/-- The order of numeric segments. -/
def compareNumbers : Segment → Segment → Ordering :=
  compareLex (compareOn value) (compareOn fun s => s.chars.length)

/-- The order of words. -/
def compareWords : Segment → Segment → Ordering := compareOn chars

instance : Ord Segment where
  compare a b :=
    match a.isNumeric, b.isNumeric with
    | true, true => compareNumbers a b
    | true, false => .lt
    | false, true => .gt
    | false, false => compareWords a b

instance : Std.TransCmp compareNumbers :=
  inferInstanceAs (Std.TransCmp (compareLex _ _))

instance : Std.TransCmp compareWords := inferInstanceAs (Std.TransCmp (compareOn _))

theorem ext_chars {a b : Segment} (h : a.chars = b.chars) : a = b := by
  cases a; cases b; simp_all

theorem eq_of_compareNumbers {a b : Segment} (ha : a.isNumeric = true) (hb : b.isNumeric = true)
    (h : compareNumbers a b = .eq) : a = b := by
  have ⟨hv, hl⟩ := compareLex_eq_eq.mp h
  exact ext_chars
    (Digits.eq_of_ofDigitChars_eq ha hb (Std.LawfulEqOrd.eq_of_compare hl)
      (Std.LawfulEqOrd.eq_of_compare hv))

instance : Std.TransOrd Segment where
  eq_swap {a b} := by
    simp only [compare]
    cases a.isNumeric <;> cases b.isNumeric
    · exact @Std.OrientedCmp.eq_swap _ compareWords _ a b
    · rfl
    · rfl
    · exact @Std.OrientedCmp.eq_swap _ compareNumbers _ a b
  isLE_trans {a b c} hab hbc := by
    simp only [compare] at hab hbc ⊢
    cases ha : a.isNumeric <;> cases hb : b.isNumeric <;> cases hc : c.isNumeric <;>
      simp only [ha, hb, hc] at hab hbc ⊢
    · exact @Std.TransCmp.isLE_trans _ compareWords _ a b c hab hbc
    · contradiction
    · contradiction
    · contradiction
    · rfl
    · contradiction
    · rfl
    · exact @Std.TransCmp.isLE_trans _ compareNumbers _ a b c hab hbc

instance : Std.LawfulEqOrd Segment where
  compare_self {a} := by
    simp only [compare]
    cases a.isNumeric
    · exact @Std.ReflCmp.compare_self _ compareWords _ a
    · exact @Std.ReflCmp.compare_self _ compareNumbers _ a
  eq_of_compare {a b} h := by
    simp only [compare] at h
    cases ha : a.isNumeric <;> cases hb : b.isNumeric <;> simp only [ha, hb] at h
    · exact ext_chars (Std.LawfulEqOrd.eq_of_compare h)
    · contradiction
    · contradiction
    · exact eq_of_compareNumbers ha hb h

end Segment

end Decorate
