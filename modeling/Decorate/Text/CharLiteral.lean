import Decorate.Text.Hex
import Decorate.Unicode.Property

/-!
# Characters in messages

How a message names a single character: between single quotes, as
itself where it can be seen, and escaped otherwise.
-/

namespace Decorate

namespace Text

/-- Characters that leave no mark of their own on paper. -/
def unseen : CharSet := Unicode.graphemeExtend ∪ Unicode.ofGroup 'C' ∪ Unicode.ofGroup 'Z'

/-- The character between the quotes. A character that shows no mark of its own is
written by its code point; the double quote needs no escape here. -/
def charBody (c : Char) : String :=
  if c = '\n' then "\\n"
  else if c = '\t' then "\\t"
  else if c = '\r' then "\\r"
  else if c.toNat = 0 then "\\0"
  else if c = '\\' then "\\\\"
  else if c = '\'' then "\\'"
  else if c ≠ ' ' ∧ unseen.contains c then "\\u\x7b" ++ hexCode c ++ "\x7d"
  else c.toString

def charLiteral (c : Char) : String := "'" ++ charBody c ++ "'"

end Text

end Decorate
