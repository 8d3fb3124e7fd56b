/-!
# Hexadecimal digits
-/

namespace Decorate

namespace Text

/-- The value of a hexadecimal digit of either case. -/
def hexDigit? (c : Char) : Option Nat :=
  if c.isDigit then some (c.toNat - '0'.toNat)
  else if 'a' ≤ c ∧ c ≤ 'f' then some (c.toNat - 'a'.toNat + 10)
  else if 'A' ≤ c ∧ c ≤ 'F' then some (c.toNat - 'A'.toNat + 10)
  else none

/-- The value of a row of hexadecimal digits, at least one. -/
def hexValue? (digits : List Char) : Option Nat :=
  if digits = [] then none
  else digits.foldl (fun n c => n.bind fun n => (hexDigit? c).map (16 * n + ·)) (some 0)

/-- The code point of a character in lower-case digits. -/
def hexCode (c : Char) : String := String.ofList (Nat.toDigits 16 c.toNat)

end Text

end Decorate
