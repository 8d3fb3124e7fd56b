import Decorate.Text.Search
import Decorate.Version.Segment

/-!
# Semantic versions

A version has three numbers, and may carry a pre-release tag and build
metadata, each a list of segments. Numbers are 64 bits wide, and those
of a pre-release tag are written without leading zeros, so a version has
one written form only.

Versions are ordered by their numbers, then by pre-release tag (a
release comes after all its pre-releases), then by build metadata (none
comes first). Inside a tag segments are compared one by one, and a tag
comes before its extensions. The order is total: of two versions one
comes before the other unless they are the same (`lt_or_eq_or_gt`).
-/

namespace Decorate

structure Version where
  major : UInt64
  minor : UInt64
  patch : UInt64
  /-- The segments of the pre-release tag; a release has none. -/
  pre : List Segment := []
  /-- The segments of the build metadata. -/
  build : List Segment := []
  /-- Numbers in a pre-release tag are written in one way. -/
  canonical : pre.all (fun s => !s.hasLeadingZero) = true := by rfl
deriving DecidableEq, Repr

namespace Version

/-- The version `0.0.0`. -/
def zero : Version := { major := 0, minor := 0, patch := 0 }

/-- The version `1.0.0`. -/
def one : Version := { major := 1, minor := 0, patch := 0 }

/-! ## Written form -/

/-- A tag as it is written, with dots between its segments. -/
def tagText (segments : List Segment) : String := Text.join "." (segments.map Segment.text)

def preText (v : Version) : String := tagText v.pre

def buildText (v : Version) : String := tagText v.build

def number (n : UInt64) : String := String.ofList (Nat.toDigits 10 n.toNat)

/-- The version as it is written: `1.2.3-rc.1+build.5`. -/
def text (v : Version) : String :=
  number v.major ++ "." ++ number v.minor ++ "." ++ number v.patch
    ++ (if v.pre.isEmpty then "" else "-" ++ v.preText)
    ++ (if v.build.isEmpty then "" else "+" ++ v.buildText)

/-! ## Order -/

/-- A release comes after its pre-releases; these come in the order of their segments. -/
def comparePre : Version → Version → Ordering :=
  compareLex (compareOn fun v => v.pre.isEmpty) (compareOn pre)

def compareNumbers : Version → Version → Ordering :=
  compareLex (compareOn major) (compareLex (compareOn minor) (compareOn patch))

instance : Ord Version where
  compare := compareLex compareNumbers (compareLex comparePre (compareOn build))

instance : LE Version where
  le a b := (compare a b).isLE = true

instance : LT Version where
  lt a b := compare a b = .lt

instance (a b : Version) : Decidable (a ≤ b) :=
  inferInstanceAs (Decidable ((compare a b).isLE = true))

instance (a b : Version) : Decidable (a < b) := inferInstanceAs (Decidable (compare a b = .lt))

instance : Std.TransCmp comparePre := inferInstanceAs (Std.TransCmp (compareLex _ _))

instance : Std.TransCmp compareNumbers :=
  inferInstanceAs (Std.TransCmp (compareLex _ (compareLex _ _)))

instance : Std.TransOrd Version :=
  inferInstanceAs (Std.TransCmp (compareLex _ (compareLex _ _)))

instance : Std.LawfulEqOrd Version where
  eq_of_compare {a b} h := by
    have ⟨hn, h⟩ := compareLex_eq_eq.mp h
    have ⟨hp, hb⟩ := compareLex_eq_eq.mp h
    have ⟨hmajor, h⟩ := compareLex_eq_eq.mp hn
    have ⟨hminor, hpatch⟩ := compareLex_eq_eq.mp h
    have hpre := (compareLex_eq_eq.mp hp).2
    have := Std.LawfulEqOrd.eq_of_compare hmajor
    have := Std.LawfulEqOrd.eq_of_compare hminor
    have := Std.LawfulEqOrd.eq_of_compare hpatch
    have := Std.LawfulEqOrd.eq_of_compare hpre
    have := Std.LawfulEqOrd.eq_of_compare hb
    cases a; cases b; simp_all

theorem lt_trans {a b c : Version} (hab : a < b) (hbc : b < c) : a < c :=
  Std.TransCmp.lt_trans hab hbc

theorem lt_irrefl (v : Version) : ¬ v < v := by
  intro h
  simp only [LT.lt, Std.ReflOrd.compare_self] at h
  contradiction

theorem le_trans {a b c : Version} (hab : a ≤ b) (hbc : b ≤ c) : a ≤ c :=
  Std.TransCmp.isLE_trans hab hbc

theorem not_lt {a b : Version} : ¬ a < b ↔ b ≤ a := by
  simp only [LT.lt, LE.le, @Std.OrientedOrd.eq_swap _ _ _ b a]
  cases compare a b <;> simp

theorem lt_or_eq_or_gt (a b : Version) : a < b ∨ a = b ∨ b < a := by
  cases h : compare a b with
  | lt => exact .inl h
  | eq => exact .inr (.inl (Std.LawfulEqOrd.eq_of_compare h))
  | gt => exact .inr (.inr (Std.OrientedOrd.eq_swap.trans (by rw [h]; rfl)))

/-! ## Compatibility -/

/-- A version serves a request for `requested` when the majors agree and its minor and
patch numbers are at least the requested ones. Tags play no part. -/
def serves (available requested : Version) : Bool :=
  available.major == requested.major
    && (requested.minor < available.minor
      || (requested.minor == available.minor && requested.patch ≤ available.patch))

end Version

end Decorate
