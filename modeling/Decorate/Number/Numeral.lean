import Decorate.Number.Decimal

/-!
# Numerals

The spellings of numbers that an argument may use. An integer is a run
of digits with an optional sign. A real number may leave out the digits
on one side of its point, may carry an exponent, and has the spellings
`inf`, `infinity` and `nan` in any case; those, and numerals too large
for the format, read as `unbounded`.
-/

namespace Decorate

namespace Numeral

/-- Splits an optional sign off and says whether it is a minus. -/
def splitSign : List Char → Bool × List Char
  | '-' :: rest => (true, rest)
  | '+' :: rest => (false, rest)
  | cs => (false, cs)

/-! ## Integers -/

/-- Reads an optionally signed run of digits of any length. -/
def integer? (cs : List Char) : Option Int :=
  let (negative, digits) := splitSign cs
  if digits ≠ [] ∧ digits.all Char.isDigit then
    let n : Int := Nat.ofDigitChars 10 digits 0
    some (if negative then -n else n)
  else none

/-! ## Real numbers -/

/-- What a numeral stands for. -/
inductive Value where
  | finite (x : Binary64)
  | unbounded
deriving DecidableEq

/-- The exponent part: nothing, or an `e` with an integer. -/
def exponent? : List Char → Option Int
  | [] => some 0
  | c :: rest => if c = 'e' ∨ c = 'E' then integer? rest else none

/-- Reads digits with an optional point and exponent, at least one digit among them. -/
def decimal? (cs : List Char) : Option Decimal :=
  let whole := cs.takeWhile Char.isDigit
  let rest := cs.dropWhile Char.isDigit
  let (fraction, tail) :=
    match rest with
    | '.' :: rest => (rest.takeWhile Char.isDigit, rest.dropWhile Char.isDigit)
    | _ => ([], rest)
  if whole = [] ∧ fraction = [] then none
  else
    (exponent? tail).map fun e =>
      ⟨Nat.ofDigitChars 10 (whole ++ fraction) 0, e - fraction.length⟩

def isUnboundedWord (cs : List Char) : Bool :=
  let word := String.ofList (cs.map Char.toLower)
  word == "inf" || word == "infinity" || word == "nan"

/-- Reads a real number, rounding to the nearest. -/
def real? (cs : List Char) : Option Value :=
  let (negative, body) := splitSign cs
  if isUnboundedWord body then some .unbounded
  else
    (decimal? body).map fun d =>
      match Binary64.ofDecimal? negative d with
      | some x => .finite x
      | none => .unbounded

end Numeral

end Decorate
