import Decorate.CharSet.Basic
import Decorate.Number.Power

/-!
# Sets as rows of bytes

In UTF-8 a character is a lead byte and up to three continuation bytes
with six bits each. The characters of a stretch are therefore the ways
through a few rows of byte ranges, of which `byteRows` finds the
fewest: where a block of characters with one lead is full, any
continuation will do, and several such blocks share a row.
-/

namespace Decorate

namespace CharSet

/-- A range of bytes, both ends included. -/
abbrev ByteRange := Nat × Nat

/-- The rows for the numbers from `first` to `last`, written with so many continuation
bytes; `mark` is what distinguishes the lead byte. -/
def rowsOf : Nat → Nat → Nat → Nat → List (List ByteRange)
  | 0, mark, first, last => [[(mark + first, mark + last)]]
  | more + 1, mark, first, last =>
    let block := 64 ^ (more + 1)
    let within (lead first last : Nat) : List (List ByteRange) :=
      (rowsOf more 0x80 first last).map ((mark + lead, mark + lead) :: ·)
    let (lo, hi) := (first / block, last / block)
    if lo = hi then within lo (first % block) (last % block)
    else
      let head := if first % block = 0 then [] else within lo (first % block) (block - 1)
      let tail := if last % block = block - 1 then [] else within hi 0 (last % block)
      let lo := if head = [] then lo else lo + 1
      let hi := if tail = [] then hi else hi - 1
      let full :=
        if lo ≤ hi then [(mark + lo, mark + hi) :: List.replicate (more + 1) (0x80, 0xbf)] else []
      head ++ full ++ tail

/-- Stretches of code points written alike: the first and the last, the number of
continuation bytes, and the mark of the lead byte. -/
def encodings : List (Nat × Nat × Nat × Nat) :=
  [(0, 0x7f, 0, 0), (0x80, 0x7ff, 1, 0xc0), (0x800, 0xd7ff, 2, 0xe0), (0xe000, 0xffff, 2, 0xe0),
   (0x10000, 0x10ffff, 3, 0xf0)]

/-- The rows for the set, in ascending order. -/
def byteRows (s : CharSet) : List (List ByteRange) :=
  s.stretches.flatMap fun (first, after) =>
    let (first, last) := (codeOf first, codeOf (after - 1))
    encodings.flatMap fun (lo, hi, more, mark) =>
      let (lo, hi) := (Nat.max first lo, Nat.min last hi)
      if lo ≤ hi then rowsOf more mark lo hi else []

end CharSet

end Decorate
