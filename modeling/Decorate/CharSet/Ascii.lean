import Decorate.CharSet.Basic

/-!
# Sets of ASCII characters

The sets that go by a name between brackets and colons, and the ASCII
twins of digits, blanks and word characters.
-/

namespace Decorate

namespace CharSet

def asciiDigit : CharSet := range 0x30 0x39

def asciiLower : CharSet := range 0x61 0x7a

def asciiUpper : CharSet := range 0x41 0x5a

def asciiLetter : CharSet := asciiLower ∪ asciiUpper

def asciiSpace : CharSet := range 9 13 ∪ single ' '

def asciiWord : CharSet := asciiLetter ∪ asciiDigit ∪ single '_'

/-- The characters that leave a mark. -/
def asciiGraph : CharSet := range 0x21 0x7e

/-- The set of that name. -/
def ofAsciiName? : String → Option CharSet
  | "alnum" => some (asciiLetter ∪ asciiDigit)
  | "alpha" => some asciiLetter
  | "ascii" => some (range 0 0x7f)
  | "blank" => some (single ' ' ∪ single '\t')
  | "cntrl" => some (range 0 0x1f ∪ single '\x7f')
  | "digit" => some asciiDigit
  | "graph" => some asciiGraph
  | "lower" => some asciiLower
  | "print" => some (asciiGraph ∪ single ' ')
  | "punct" => some (asciiGraph \ (asciiLetter ∪ asciiDigit))
  | "space" => some asciiSpace
  | "upper" => some asciiUpper
  | "word" => some asciiWord
  | "xdigit" => some (asciiDigit ∪ range 0x41 0x46 ∪ range 0x61 0x66)
  | _ => Option.none

end CharSet

end Decorate
