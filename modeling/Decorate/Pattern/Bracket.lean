import Decorate.Pattern.Escape

/-!
# Bracketed sets

A bracket holds characters, ranges, escapes, named ASCII sets and
brackets of its own, with `&&`, `--` and `~~` between for what two
sides share, what the left has alone and what one has alone. With the
set comes its depth: how many brackets, unions and operations stand in
one another.
-/

namespace Decorate

namespace Pattern

/-- A set that was read, with how deep its text is nested. -/
structure NestedSet where
  set : CharSet
  depth : Nat := 0

/-- An operation with the set on its left, waiting for the one on its right. -/
structure PendingSet where
  operation : CharSet → CharSet → CharSet
  left : NestedSet

/-- What was read of a bracket up to a place: the operation before, if any, and the items
after it, their number and the depth of the deepest. -/
structure OpenSet where
  pending : Option PendingSet := none
  items : CharSet := .none
  count : Nat := 0
  depth : Nat := 0

def OpenSet.push (s : OpenSet) (item : NestedSet) : OpenSet :=
  { s with
    items := s.items ∪ item.set, count := s.count + 1, depth := Nat.max s.depth item.depth }

/-- The set up to this place, case aside if it does not count. -/
def OpenSet.close (flags : Flags) (s : OpenSet) : NestedSet :=
  let right : NestedSet := ⟨fold flags s.items, if 2 ≤ s.count then s.depth + 1 else s.depth⟩
  match s.pending with
  | some p => ⟨p.operation p.left.set right.set, Nat.max p.left.depth right.depth + 1⟩
  | none => right

/-- What is left to read after an operator. -/
def OpenSet.operate (flags : Flags) (operation : CharSet → CharSet → CharSet) (s : OpenSet) :
    OpenSet :=
  { pending := some ⟨operation, s.close flags⟩ }

/-! ## Items -/

/-- A character or an escape, as an item of a bracket. -/
def readSetItem (flags : Flags) : List Char → Option (Escape × List Char)
  | [] => none
  | '\\' :: rest => readEscape flags rest
  | c :: rest => some (.char c, rest)

/-- The characters from one to another. Without Unicode both have to be ASCII. -/
def rangeSet? (flags : Flags) (first last : Char) : Option CharSet :=
  if last < first ∨ ¬flags.unicode ∧ 0x80 ≤ last.toNat then none
  else some (.range first.toNat last.toNat)

def setOfItem? (flags : Flags) : Escape → Option CharSet
  | .char c => rangeSet? flags c c
  | .set s => some s
  | .look _ => none

/-- The character after a hyphen that decides whether the hyphen makes a range. A look
past blanks also passes one number sign, but not the comment that it starts. -/
def peek (flags : Flags) (cs : List Char) : Option Char :=
  if flags.verbose then
    match cs.dropWhile Text.isBlankChar with
    | '#' :: rest => (rest.dropWhile Text.isBlankChar).head? <|> cs.head?
    | [] => cs.head?
    | c :: _ => some c
  else cs.head?

/-- Reads an item, or the range from it to another. A hyphen before the end of the
bracket or before another hyphen makes no range. -/
def readSetRange (flags : Flags) (cs : List Char) : Option (CharSet × List Char) := do
  let (first, rest) ← readSetItem flags cs
  match skip flags rest with
  | [] => none
  | '-' :: more =>
    if peek flags more = some ']' ∨ peek flags more = some '-' then
      return (← setOfItem? flags first, '-' :: more)
    else
      let (last, rest) ← readSetItem flags (skip flags more)
      match first, last with
      | .char first, .char last => return (← rangeSet? flags first last, rest)
      | _, _ => none
  | rest => return (← setOfItem? flags first, rest)

/-- Reads the name of an ASCII set after the bracket that opens it, and whether all but
the set is meant. -/
def readNamedSet : List Char → Option (Bool × CharSet × List Char)
  | ':' :: rest =>
    let negated := rest.head? == some '^'
    let rest := if negated then rest.drop 1 else rest
    match rest.dropWhile (· != ':') with
    | ':' :: ']' :: tail => do
      let s ← CharSet.ofAsciiName? (String.ofList (rest.takeWhile (· != ':')))
      return (negated, s, tail)
    | _ => none
  | _ => none

/-! ## Brackets -/

/-- Reads the hyphens that stand for themselves at the start of a bracket, or the closing
bracket that does so where it comes first. -/
def readStart (flags : Flags) (cs : List Char) : OpenSet × List Char :=
  match takeLoose flags (· == '-') false cs with
  | ([], ']' :: rest) => (OpenSet.push {} ⟨.single ']', 0⟩, rest)
  | (hyphens, rest) => (hyphens.foldl (fun s _ => s.push ⟨.single '-', 0⟩) {}, rest)

mutual
/-- Reads a bracketed set after its opening bracket, down to so many brackets in one
another and with so much fuel for the items. -/
def readBracket (flags : Flags) : Nat → Nat → List Char → Option (NestedSet × List Char)
  | 0, _, _ | _, 0, _ => none
  | levels + 1, fuel + 1, cs => do
    let cs := skip flags cs
    let negated := cs.head? == some '^'
    let (start, cs) := readStart flags (if negated then skip flags (cs.drop 1) else cs)
    let (s, rest) ← readItems flags levels fuel start cs
    if negated then
      if flags.unicode then return (⟨s.set.compl, s.depth + 1⟩, rest) else none
    else return (⟨s.set, s.depth + 1⟩, rest)

/-- Reads the items of a bracket and the operators between them. -/
def readItems (flags : Flags) : Nat → Nat → OpenSet → List Char → Option (NestedSet × List Char)
  | _, 0, _, _ => none
  | levels, fuel + 1, s, cs =>
    match skip flags cs with
    | [] => none
    | ']' :: rest => some (s.close flags, rest)
    | '&' :: '&' :: rest => readItems flags levels fuel (s.operate flags .inter) rest
    | '-' :: '-' :: rest => readItems flags levels fuel (s.operate flags .diff) rest
    | '~' :: '~' :: rest => readItems flags levels fuel (s.operate flags .symmDiff) rest
    | '[' :: rest =>
      match readNamedSet rest with
      | some (negated, named, rest) =>
        match finish flags negated named with
        | some named => readItems flags levels fuel (s.push ⟨named, 0⟩) rest
        | none => none
      | none =>
        match readBracket flags levels fuel rest with
        | some (inner, rest) => readItems flags levels fuel (s.push inner) rest
        | none => none
    | rest =>
      match readSetRange flags rest with
      | some (item, rest) => readItems flags levels fuel (s.push ⟨item, 0⟩) rest
      | none => none
end

end Pattern

end Decorate
