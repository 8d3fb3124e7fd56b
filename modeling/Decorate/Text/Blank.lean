/-!
# Blank characters

Which characters count as white space, and the two operations that
depend on it: cutting the white space off both ends of a text, and
asking whether a text holds anything else.

The set is Unicode's `White_Space`. It is wider than the ASCII blanks,
and it leaves out the zero-width space and the byte order mark.
-/

namespace Decorate

namespace Text

/-- The Unicode property `White_Space`. -/
def isBlankChar (c : Char) : Bool :=
  let n := c.toNat
  (9 ≤ n && n ≤ 13) || n == 0x20 || n == 0x85 || n == 0xa0 || n == 0x1680
    || (0x2000 ≤ n && n ≤ 0x200a) || n == 0x2028 || n == 0x2029 || n == 0x202f
    || n == 0x205f || n == 0x3000

/-- Drops the blanks at the start. -/
def trimLeft (cs : List Char) : List Char := cs.dropWhile isBlankChar

/-- Drops the blanks at both ends. -/
def trimChars (cs : List Char) : List Char :=
  (trimLeft (trimLeft cs).reverse).reverse

/-- Holds of a text that consists of blanks only, the empty text included. -/
def isBlank (s : String) : Bool := s.toList.all isBlankChar

end Text

end Decorate
