import Decorate.CharSet.Basic

/-!
# Patterns

A pattern describes stretches of text. Given the positions where a
stretch may start, `Pattern.ends` computes all the positions where it
may end; a text matches when a stretch starting anywhere ends somewhere
(`Pattern.isMatch`). Which of several stretches a search would report
does not matter here, so neither does the order of alternatives nor
whether a repetition is greedy.

Sets of positions are ascending lists without repetitions. A repetition
without upper bound needs at most one round for each position of the
text, since every round that counts adds one.
-/

namespace Decorate

/-- A condition on the place between two characters. -/
inductive Look where
  | textStart
  | textEnd
  | lineStart
  | lineEnd
  /-- Line boundaries where a carriage return with a line feed is one line end. -/
  | crlfStart
  | crlfEnd
  | boundary (word : CharSet)
  | notBoundary (word : CharSet)
  | wordStart (word : CharSet)
  | wordEnd (word : CharSet)
  | wordStartHalf (word : CharSet)
  | wordEndHalf (word : CharSet)

inductive Pattern where
  | empty
  | one (set : CharSet)
  | look (condition : Look)
  /-- A part whose place in a match is remembered. -/
  | group (body : Pattern)
  | cat (first second : Pattern)
  | alt (left right : Pattern)
  /-- At least `min` times, and at most `max` times if that is given. -/
  | rep (body : Pattern) (min : Nat) (max : Option Nat)

/-- Holds at the place after `before` and in front of `after`. -/
def Look.holds (before after : Option Char) : Look → Bool
  | textStart => before.isNone
  | textEnd => after.isNone
  | lineStart => before.all (· == '\n')
  | lineEnd => after.all (· == '\n')
  | crlfStart => before.all fun c => c == '\n' || (c == '\r' && after != some '\n')
  | crlfEnd => after.all fun c => c == '\r' || (c == '\n' && before != some '\r')
  | boundary word => before.any word.contains != after.any word.contains
  | notBoundary word => before.any word.contains == after.any word.contains
  | wordStart word => !before.any word.contains && after.any word.contains
  | wordEnd word => before.any word.contains && !after.any word.contains
  | wordStartHalf word => !before.any word.contains
  | wordEndHalf word => !after.any word.contains

namespace Pattern

/-! ## Building -/

/-- Holds when all stretches the pattern describes are empty. -/
def isWidthless : Pattern → Bool
  | empty | look _ => true
  | one _ => false
  | group body => body.isWidthless
  | cat first second => first.isWidthless && second.isWidthless
  | alt left right => left.isWidthless && right.isWidthless
  | rep body _ _ => body.isWidthless

/-- The parts one after the other. -/
def sequence (parts : List Pattern) : Pattern :=
  let isEmpty : Pattern → Bool | empty => true | _ => false
  match (parts.filter (!isEmpty ·)).reverse with
  | [] => empty
  | last :: before => before.foldl (fun p part => cat part p) last

/-- Any one of the branches. Single characters, and sets of others, make one set. -/
def choice (branches : List Pattern) : Pattern :=
  let setOf? : Pattern → Option CharSet | one set => some set | _ => none
  let sets := branches.filterMap setOf?
  let singles := sets.filter (·.only?.isSome)
  if sets.length = branches.length ∧ (singles.length = sets.length ∨ singles = []) then
    one (sets.foldl (· ∪ ·) .none)
  else
    match branches.reverse with
    | [] => empty
    | last :: before => before.foldl (fun p branch => alt branch p) last

/-- The part so many times. More than once makes no difference to a part without width. -/
def repeated (body : Pattern) (min : Nat) (max : Option Nat) : Pattern :=
  let (min, max) :=
    if body.isWidthless then (Nat.min min 1, some (Nat.min (max.getD 1) 1)) else (min, max)
  if max = some 0 then empty else if min = 1 ∧ max = some 1 then body else rep body min max

/-! ## Sets of positions -/

/-- A set of positions: ascending, none twice. -/
abbrev Positions := List Nat

/-- The union of two sets. -/
def merge : Positions → Positions → Positions
  | [], ys => ys
  | xs, [] => xs
  | x :: xs, y :: ys =>
    if x < y then x :: merge xs (y :: ys)
    else if y < x then y :: merge (x :: xs) ys
    else x :: merge xs ys
termination_by xs ys => xs.length + ys.length

/-- The positions of the first set that are not in the second. -/
def without : Positions → Positions → Positions
  | [], _ => []
  | xs, [] => xs
  | x :: xs, y :: ys =>
    if x < y then x :: without xs (y :: ys)
    else if y < x then without (x :: xs) ys
    else without xs ys
termination_by xs ys => xs.length + ys.length

/-! ## Repetition -/

/-- Takes exactly `count` steps, fewer once a step changes nothing. -/
def stepTimes (step : Positions → Positions) : Nat → Positions → Positions
  | 0, positions => positions
  | count + 1, positions =>
    let next := step positions
    if next = positions then positions else stepTimes step count next

/-- Takes up to `rounds` steps from the newest positions and collects what is reached. -/
def stepUpTo (step : Positions → Positions) :
    Nat → Positions → Positions → Positions
  | 0, reached, _ => reached
  | rounds + 1, reached, newest =>
    match without (step newest) reached with
    | [] => reached
    | found => stepUpTo step rounds (merge reached found) found

/-! ## Matching -/

/-- The positions where a stretch may end that starts at one of the given positions. -/
def ends (text : Array Char) : Pattern → Positions → Positions
  | empty, starts => starts
  | one set, starts =>
    (starts.filter fun i => text[i]?.any set.contains).map (· + 1)
  | look condition, starts =>
    starts.filter fun i =>
      condition.holds (if i = 0 then none else text[i - 1]?) text[i]?
  | group body, starts => ends text body starts
  | cat first second, starts => ends text second (ends text first starts)
  | alt left right, starts => merge (ends text left starts) (ends text right starts)
  | rep body min max, starts =>
    let least := stepTimes (ends text body) min starts
    let rounds :=
      match max with
      | none => text.size + 1
      | some max => Nat.min (max - min) (text.size + 1)
    stepUpTo (ends text body) rounds least least

/-- Holds when the pattern describes some stretch of the text. -/
def isMatch (pattern : Pattern) (text : String) : Bool :=
  let chars := text.toList.toArray
  ends chars pattern (List.range (chars.size + 1)) ≠ []

end Pattern

end Decorate
