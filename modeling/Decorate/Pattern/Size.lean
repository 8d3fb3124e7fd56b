import Decorate.CharSet.Bytes
import Decorate.Pattern.Basic
import Std.Data.HashSet.Basic

/-!
# The size of a pattern

A pattern is refused when a machine for it would be too large. Two
machines count, one that reads the bytes of a text forwards and one
that reads them backwards; each is a graph of states. A state takes
`stateBytes`, and what leaves it takes more: a step over a byte
range `stepBytes`, a choice between ways `wayBytes` for each.

Counted repetitions copy their body. A set beyond ASCII becomes a graph
of its byte rows: forwards, rows that end alike share their ends
(`forwardSize`), backwards, rows that start alike share their starts.
Texts to choose from share their starts either way (`choiceSize`).
-/

namespace Decorate

/-! ## Sets -/

namespace CharSet

def stateBytes : Nat := 32

def stepBytes : Nat := 8

def wayBytes : Nat := 4

def total (sizes : List Nat) : Nat := sizes.foldl (· + ·) 0

/-- Sorts rows by their first range, which neighbours share. -/
def branches : List (List ByteRange) → List (ByteRange × List (List ByteRange))
  | [] => []
  | [] :: rows => branches rows
  | (range :: row) :: rows =>
    match branches rows with
    | (next, rest) :: more =>
      if range = next then (range, row :: rest) :: more else (range, [row]) :: (next, rest) :: more
    | [] => [(range, [row])]

/-- What may follow at each node of the tree of rows, which is so deep at most. -/
def nodes : Nat → List (List ByteRange) → List (List (List ByteRange))
  | 0, _ => []
  | depth + 1, rows =>
    if rows = [[]] then [] else rows :: (branches rows).flatMap fun (_, rest) => nodes depth rest

/-- The nodes of the tree of rows below its root. -/
def treeSize : Nat → List (List ByteRange) → Nat
  | 0, _ => 0
  | depth + 1, rows => total ((branches rows).map fun (_, rest) => 1 + treeSize depth rest)

/-- Of nodes that may be followed alike there is one only. -/
def forwardSize (rows : List (List ByteRange)) : Nat :=
  stateBytes + total ((Std.HashSet.ofList (nodes 4 rows)).toList.map fun node =>
    stateBytes + stepBytes * (branches node).length)

def backwardSize (rows : List (List ByteRange)) : Nat :=
  stateBytes * (2 + treeSize 4 rows) + wayBytes * rows.length

/-- The size of the part of a machine that reads a character of the set. -/
def size (backwards : Bool) (s : CharSet) : Nat :=
  match s.only? with
  | some c => stateBytes * c.utf8Size
  | Option.none =>
    if s.isAscii then 2 * stateBytes + stepBytes * s.stretches.length
    else if backwards then backwardSize s.byteRows
    else forwardSize s.byteRows

end CharSet

/-! ## Patterns -/

namespace Pattern

open CharSet (stateBytes stepBytes wayBytes total)

/-! ### Choices between texts -/

/-- The text that the pattern describes, if it is one only and has no other parts. -/
def text? : Pattern → Option (List UInt8)
  | one set => set.only?.map fun c => c.toString.toUTF8.toList
  | cat first second => first.text?.bind fun start => second.text?.map (start ++ ·)
  | _ => none

/-- The texts of the branches, if there are no others. -/
def texts? : Pattern → Option (List (List UInt8))
  | alt left right => left.texts?.bind fun texts => right.texts?.map (texts ++ ·)
  | p => p.text?.map ([·])

/-- Sorts texts by their first byte, in the order in which these appear. -/
def byFirst (texts : List (List UInt8)) : List (List (List UInt8)) :=
  (texts.filterMap List.head?).eraseDups.map fun first =>
    texts.filterMap fun
      | byte :: rest => if byte = first then some rest else none
      | [] => none

/-- The texts between the ends of texts. -/
def runsOfTexts : List (List UInt8) → List (List (List UInt8))
  | [] => [[]]
  | [] :: texts => [] :: runsOfTexts texts
  | text :: texts =>
    match runsOfTexts texts with
    | run :: runs => (text :: run) :: runs
    | [] => [[text]]

/-- The size of the node of a tree where the texts go on, which are so long at most. A text
that ends there divides those before it from those after it, as they are tried in order. -/
def nodeSize : Nat → List (List UInt8) → Nat
  | 0, _ => 0
  | depth + 1, texts =>
    let texts := if texts.head? = some [] then [] :: texts.dropWhile (· == []) else texts
    if texts.all (· == []) then 0
    else
      let runs := runsOfTexts texts
      let forks := (runs.filter (· ≠ [])).map byFirst
      stateBytes + wayBytes * (forks.length + runs.length - 1)
        + total (forks.map fun fork =>
            stateBytes + (if fork.length = 1 then 0 else stepBytes * fork.length)
              + total (fork.map (nodeSize depth)))

/-- The size of a choice between texts. -/
def choiceSize (texts : List (List UInt8)) : Nat :=
  stateBytes + nodeSize ((texts.map List.length).foldl Nat.max 0 + 1) texts

/-! ### All patterns -/

/-- Holds when no stretch the pattern describes is empty, as far as its form shows. -/
def consumes : Pattern → Bool
  | empty | look _ => false
  | one set => !set.isEmpty
  | group body => body.consumes
  | cat first second => first.consumes || second.consumes
  | alt left right => left.consumes && right.consumes
  | rep body min _ => min ≠ 0 && body.consumes

/-- The size of a row of copies. -/
def copies (count body : Nat) : Nat := if count = 0 then stateBytes else count * body

/-- The size of a repetition, from that of its body. -/
def repeatedSize (min : Nat) (max : Option Nat) (consumes : Bool) (body : Nat) : Nat :=
  match max with
  | none =>
    if min ≠ 0 then copies min body + stateBytes + 2 * wayBytes
    else if consumes then body + stateBytes + 2 * wayBytes
    else body + 3 * stateBytes + 4 * wayBytes
  | some max =>
    if min = max then copies min body
    else if min = 0 ∧ max = 1 then body + 2 * stateBytes + 2 * wayBytes
    else copies min body + stateBytes + (max - min) * (stateBytes + 2 * wayBytes + body)

/-- The size of the part of a machine that reads the pattern. Branches of a choice, `inChoice`,
share its two ends with the others. -/
def partSize (backwards inChoice : Bool) : Pattern → Nat
  | alt left right =>
    let branches := partSize backwards true left + partSize backwards true right
    if inChoice then branches
    else
      match (alt left right).texts? with
      | some texts => choiceSize (if backwards then texts.map List.reverse else texts)
      | none => 2 * stateBytes + branches
  | empty | look _ => stateBytes + branch
  | one set => set.size backwards + branch
  | group body =>
    partSize backwards false body + (if backwards then 0 else 2 * stateBytes) + branch
  | cat first second => partSize backwards false first + partSize backwards false second + branch
  | rep body min max =>
    repeatedSize min max body.consumes (partSize backwards false body) + branch
where
  branch : Nat := if inChoice then wayBytes else 0

/-- Holds when a match can begin only where the text begins. -/
def startsText : Pattern → Bool
  | look .textStart => true
  | empty | one _ | look _ => false
  | group body => body.startsText
  | cat first second => first.startsText || (first.isWidthless && second.startsText)
  | alt left right => left.startsText && right.startsText
  | rep body min _ => min ≠ 0 && body.startsText

/-- Holds when a match can end only where the text ends. -/
def endsText : Pattern → Bool
  | look .textEnd => true
  | empty | one _ | look _ => false
  | group body => body.endsText
  | cat first second => second.endsText || (second.isWidthless && first.endsText)
  | alt left right => left.endsText && right.endsText
  | rep body min _ => min ≠ 0 && body.endsText

/-- The size of the part that skips what comes before a match, if anything can. -/
def searchSize (anchored : Bool) : Nat :=
  if anchored then stateBytes else 3 * stateBytes + stepBytes + 2 * wayBytes

/-- The size of the machine that reads forwards; it remembers where the match is. -/
def forwardSize (p : Pattern) : Nat :=
  searchSize p.startsText + p.partSize false false + 3 * stateBytes

/-- The size of the machine that reads backwards. -/
def backwardSize (p : Pattern) : Nat :=
  searchSize p.endsText + p.partSize true false + stateBytes

/-- Machines may take ten mebibytes each. -/
def sizeLimit : Nat := 10 * 2 ^ (20 : Nat)

def fits (p : Pattern) : Bool := p.forwardSize ≤ sizeLimit && p.backwardSize ≤ sizeLimit

end Pattern

end Decorate
