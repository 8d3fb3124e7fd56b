/-!
# Sets of characters

A set is kept as its edges: the places in the row of all characters
where membership changes. A character is in the set when the number of
edges at or before it is odd. Edges ascend strictly, so a set has one
representation, and union, intersection and their like are one merge of
two rows of edges (`CharSet.combine`), of which `contains_combine` says
what it means.

Places are counted in ranks. The rank of a character is its code point,
less the gap of code points that are no characters, so that the
characters on both sides of the gap are neighbours.
-/

namespace Decorate

namespace CharSet

/-! ## Ranks -/

/-- How many characters come before the code point. -/
def rank (code : Nat) : Nat := if code < 0xd800 then code else 0xd800 + (code - 0xe000)

/-- The number of all characters. -/
def rankCount : Nat := 0x10f800

/-- The code point of the character with the given rank. -/
def codeOf (rank : Nat) : Nat := if rank < 0xd800 then rank else rank + 0x800

/-! ## Edges -/

/-- Membership at the place `n`, when it is `inside` before the first of the edges. -/
def insideAt : Bool → List Nat → Nat → Bool
  | inside, [], _ => inside
  | inside, e :: edges, n => if n < e then inside else insideAt (!inside) edges n

theorem insideAt_of_lt {inside : Bool} {edges : List Nat} {n : Nat}
    (h : ∀ e ∈ edges, n < e) : insideAt inside edges n = inside := by
  cases edges with
  | nil => rfl
  | cons e edges => simp [insideAt, h e (List.mem_cons_self ..)]

/-- Changes membership from the place `x` on: a new edge, or one less. -/
def toggle (x : Nat) : List Nat → List Nat
  | [] => [x]
  | y :: ys => if x < y then x :: y :: ys else if y < x then y :: toggle x ys else ys

theorem mem_of_mem_toggle {x e : Nat} {ys : List Nat} (h : e ∈ toggle x ys) :
    e = x ∨ e ∈ ys := by
  fun_induction toggle x ys with grind

theorem pairwise_toggle {x : Nat} {ys : List Nat} (h : ys.Pairwise (· < ·)) :
    (toggle x ys).Pairwise (· < ·) := by
  fun_induction toggle x ys with
  | case1 => simp
  | case2 y ys hxy =>
    refine List.pairwise_cons.2 ⟨fun e he => ?_, h⟩
    rcases List.mem_cons.1 he with rfl | he
    · exact hxy
    · exact Nat.lt_trans hxy (List.rel_of_pairwise_cons h he)
  | case3 y ys _ hyx ih =>
    refine List.pairwise_cons.2 ⟨fun e he => ?_, ih h.of_cons⟩
    rcases mem_of_mem_toggle he with rfl | he
    · exact hyx
    · exact List.rel_of_pairwise_cons h he
  | case4 => exact h.of_cons

/-- An edge in front of others, if membership differs on its two sides. -/
def edgeIf (before after : Bool) (x : Nat) (edges : List Nat) : List Nat :=
  if before = after then edges else x :: edges

theorem mem_of_mem_edgeIf {before after : Bool} {x e : Nat} {edges : List Nat}
    (h : e ∈ edgeIf before after x edges) : e = x ∨ e ∈ edges := by
  unfold edgeIf at h
  split at h
  · exact .inr h
  · exact List.mem_cons.1 h

theorem pairwise_edgeIf {before after : Bool} {x : Nat} {edges : List Nat}
    (h : edges.Pairwise (· < ·)) (hx : ∀ e ∈ edges, x < e) :
    (edgeIf before after x edges).Pairwise (· < ·) := by
  unfold edgeIf
  split
  · exact h
  · exact List.pairwise_cons.2 ⟨hx, h⟩

theorem insideAt_edgeIf {before after : Bool} {x n : Nat} {edges : List Nat}
    (hx : ∀ e ∈ edges, x < e) :
    insideAt before (edgeIf before after x edges) n =
      if n < x then before else insideAt after edges n := by
  unfold edgeIf
  split
  · next h =>
    subst h
    split
    · next hn => exact insideAt_of_lt fun e he => Nat.lt_trans hn (hx e he)
    · rfl
  · next h =>
    have : (!before) = after := by cases before <;> cases after <;> simp_all
    simp [insideAt, this]

/-- The edges of what `f` makes of two sets, `a` and `b` telling whether the place before
is in the one and in the other. Once a set has no more edges, those of the other may make
no difference. -/
def mergeEdges (f : Bool → Bool → Bool) : Bool → Bool → List Nat → List Nat → List Nat
  | _, _, [], [] => []
  | a, b, x :: xs, [] =>
    if f a b = f (!a) b then [] else edgeIf (f a b) (f (!a) b) x (mergeEdges f (!a) b xs [])
  | a, b, [], y :: ys =>
    if f a b = f a (!b) then [] else edgeIf (f a b) (f a (!b)) y (mergeEdges f a (!b) [] ys)
  | a, b, x :: xs, y :: ys =>
    if x < y then edgeIf (f a b) (f (!a) b) x (mergeEdges f (!a) b xs (y :: ys))
    else if y < x then edgeIf (f a b) (f a (!b)) y (mergeEdges f a (!b) (x :: xs) ys)
    else edgeIf (f a b) (f (!a) (!b)) x (mergeEdges f (!a) (!b) xs ys)
termination_by _ _ xs ys => xs.length + ys.length

theorem mem_of_mem_mergeEdges {f : Bool → Bool → Bool} {a b : Bool} {xs ys : List Nat}
    {e : Nat} (h : e ∈ mergeEdges f a b xs ys) : e ∈ xs ∨ e ∈ ys := by
  fun_induction mergeEdges f a b xs ys with
  | case1 | case2 | case4 => simp at h
  | _ => rcases mem_of_mem_edgeIf h with rfl | h <;> grind

theorem pairwise_mergeEdges {f : Bool → Bool → Bool} {a b : Bool} {xs ys : List Nat}
    (hx : xs.Pairwise (· < ·)) (hy : ys.Pairwise (· < ·)) :
    (mergeEdges f a b xs ys).Pairwise (· < ·) := by
  fun_induction mergeEdges f a b xs ys with
  | case1 | case2 | case4 => exact .nil
  | _ =>
    rename_i ih
    refine pairwise_edgeIf (ih (by grind) (by grind)) fun e he => ?_
    have := mem_of_mem_mergeEdges he
    grind [List.pairwise_cons]

/-- Merging says at each place what `f` makes of the two memberships there. -/
theorem insideAt_mergeEdges {f : Bool → Bool → Bool} {a b : Bool} {xs ys : List Nat}
    (hx : xs.Pairwise (· < ·)) (hy : ys.Pairwise (· < ·)) (n : Nat) :
    insideAt (f a b) (mergeEdges f a b xs ys) n = f (insideAt a xs n) (insideAt b ys n) := by
  fun_induction mergeEdges f a b xs ys with
  | case1 => rfl
  | case2 a b x xs h => cases a <;> cases insideAt _ (x :: xs) n <;> simp_all [insideAt]
  | case4 a b y ys h => cases b <;> cases insideAt _ (y :: ys) n <;> simp_all [insideAt]
  | _ =>
    rename_i ih
    rw [insideAt_edgeIf fun e he => by
      have := mem_of_mem_mergeEdges he
      grind [List.pairwise_cons], ih (by grind) (by grind)]
    grind [insideAt, insideAt_of_lt, List.pairwise_cons]

end CharSet

/-! ## Sets -/

/-- A set of characters, by the places where membership changes. -/
structure CharSet where
  edges : List Nat
  ascending : edges.Pairwise (· < ·) := by simp
  bounded : ∀ e ∈ edges, e < CharSet.rankCount := by simp
deriving DecidableEq

namespace CharSet

def contains (s : CharSet) (c : Char) : Bool := insideAt false s.edges (rank c.toNat)

def none : CharSet where
  edges := []

/-- Every character. -/
def any : CharSet where
  edges := [0]
  bounded := by simp [rankCount]

/-- The set whose membership changes at each of the places; twice at one place is not at
all. -/
def ofToggles (places : List Nat) : CharSet where
  edges := (places.filter (· < rankCount)).foldr toggle []
  ascending := by
    induction places.filter (· < rankCount) with
    | nil => exact .nil
    | cons x xs ih => exact pairwise_toggle ih
  bounded := by
    have h : ∀ e ∈ places.filter (· < rankCount), e < rankCount := by simp
    generalize places.filter (· < rankCount) = xs at h
    induction xs with
    | nil => simp
    | cons x xs ih =>
      intro e he
      rcases mem_of_mem_toggle he with rfl | he
      · exact h _ (List.mem_cons_self ..)
      · exact ih (fun e he => h e (List.mem_cons_of_mem _ he)) e he

/-- The characters between two code points, both included. -/
def range (first last : Nat) : CharSet := ofToggles [rank first, rank (last + 1)]

def single (c : Char) : CharSet := range c.toNat c.toNat

/-- The set of what `f` makes of membership in two sets. -/
def combine (f : Bool → Bool → Bool) (s t : CharSet) : CharSet where
  edges := mergeEdges f false false s.edges t.edges
  ascending := pairwise_mergeEdges s.ascending t.ascending
  bounded := fun e he => (mem_of_mem_mergeEdges he).elim (s.bounded e) (t.bounded e)

theorem contains_combine {f : Bool → Bool → Bool} (hf : f false false = false)
    (s t : CharSet) (c : Char) :
    (combine f s t).contains c = f (s.contains c) (t.contains c) := by
  have h := insideAt_mergeEdges (f := f) (a := false) (b := false) s.ascending t.ascending
    (rank c.toNat)
  rw [hf] at h
  exact h

def union (s t : CharSet) : CharSet := combine (· || ·) s t

def inter (s t : CharSet) : CharSet := combine (· && ·) s t

def diff (s t : CharSet) : CharSet := combine (fun a b => a && !b) s t

def symmDiff (s t : CharSet) : CharSet := combine (· ^^ ·) s t

def compl (s : CharSet) : CharSet := symmDiff any s

instance : Union CharSet := ⟨union⟩

instance : Inter CharSet := ⟨inter⟩

instance : SDiff CharSet := ⟨diff⟩

/-- Every character of the set, moved by so many places up. -/
def up (s : CharSet) (distance : Nat) : CharSet := ofToggles (s.edges.map (· + distance))

/-- Every character of the set, moved by so many places down. -/
def down (s : CharSet) (distance : Nat) : CharSet := ofToggles (s.edges.map (· - distance))

/-- The stretches that the set is made of, as the ranks of their first characters and of
what follows their last. -/
def stretches (s : CharSet) : List (Nat × Nat) := pairs s.edges
where
  pairs : List Nat → List (Nat × Nat)
    | [] => []
    | [first] => [(first, rankCount)]
    | first :: after :: edges => (first, after) :: pairs edges

def isEmpty (s : CharSet) : Bool := s.edges.isEmpty

/-- Holds of a set of ASCII characters. -/
def isAscii (s : CharSet) : Bool := s.stretches.all fun (_, after) => after ≤ 0x80

/-- The only character of a set that has one. -/
def only? (s : CharSet) : Option Char :=
  match s.stretches with
  | [(first, after)] => if after = first + 1 then some (Char.ofNat (codeOf first)) else Option.none
  | _ => Option.none

end CharSet

end Decorate
