import Decorate.CharSet.Basic
import Decorate.Text.Hex

/-!
# Tables of sets

Sets of many characters are written down as rows of text. An entry is
a code point, the first and the last of a stretch of them with a hyphen
between, or these two, a slash and the step from one member to the
next; the numbers are hexadecimal and a blank stands between entries.
-/

namespace Decorate

namespace CharSet

/-- The pieces between the marks. -/
def splitAt (mark : Char) : List Char → List (List Char)
  | [] => [[]]
  | c :: cs =>
    if c = mark then [] :: splitAt mark cs
    else
      match splitAt mark cs with
      | piece :: pieces => (c :: piece) :: pieces
      | [] => [[c]]

def hexNumber (digits : List Char) : Nat := (Text.hexValue? digits).getD 0

/-- The places where the entry changes membership. -/
def togglesOf (entry : List Char) : List Nat :=
  match splitAt '/' entry with
  | [stretch, step] =>
    match splitAt '-' stretch with
    | [first, last] =>
      let (first, last, step) := (hexNumber first, hexNumber last, hexNumber step)
      (List.range ((last - first) / step + 1)).flatMap fun i =>
        [rank (first + i * step), rank (first + i * step + 1)]
    | _ => []
  | _ =>
    match splitAt '-' entry with
    | [first, last] => [rank (hexNumber first), rank (hexNumber last + 1)]
    | _ => [rank (hexNumber entry), rank (hexNumber entry + 1)]

/-- The set of a table. -/
def ofRows (rows : List String) : CharSet :=
  ofToggles (rows.flatMap fun row => (splitAt ' ' row.toList).flatMap togglesOf)

example : ofRows ["30-39 41"] = range 0x30 0x39 ∪ single 'A' := by decide +kernel

end CharSet

end Decorate
