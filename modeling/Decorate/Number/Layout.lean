import Decorate.Number.Decimal

/-!
# Number texts

Two ways to write out the shortest decimal of a number.

`plain` never uses an exponent and writes integral numbers without a
fraction; it is what instructions and messages show. `scientific`
writes integral numbers with `.0` and turns to an exponent where the
first digit stands more than 16 places before the point or more than
five places behind it; it is what records show. Both keep the sign of
negative zero.
-/

namespace Decorate

namespace Decimal

def zeros (n : Nat) : List Char := List.replicate n '0'

/-- The digits with the decimal point put in its place, and no exponent. -/
def positional (d : Decimal) : List Char :=
  let digits := d.digitChars
  if 0 ≤ d.exponent then digits ++ zeros d.exponent.toNat
  else
    let places := (-d.exponent).toNat
    if places < digits.length then
      digits.take (digits.length - places) ++ '.' :: digits.drop (digits.length - places)
    else '0' :: '.' :: (zeros (places - digits.length) ++ digits)

/-- One digit before the point, and the exponent that puts it right. -/
def withExponent (d : Decimal) : List Char :=
  let mantissa :=
    match d.digitChars with
    | first :: second :: more => first :: '.' :: second :: more
    | digits => digits
  let e := d.magnitude - 1
  mantissa ++ 'e' :: ((if e < 0 then ['-'] else []) ++ Nat.toDigits 10 e.natAbs)

/-- The form that records use. -/
def scientific (d : Decimal) : List Char :=
  if d.magnitude ≤ 16 ∧ 0 ≤ d.exponent then d.positional ++ ['.', '0']
  else if d.magnitude ≤ 16 ∧ -5 < d.magnitude then d.positional
  else d.withExponent

end Decimal

namespace Binary64

def signed (x : Binary64) (magnitude : List Char) : String :=
  String.ofList (if x.negative then '-' :: magnitude else magnitude)

/-- Of two decimals that are equally short and equally near, the larger. -/
def plain (x : Binary64) : String := x.signed (x.shortest .up).positional

/-- Of two decimals that are equally short and equally near, the one with the even
last digit. -/
def scientific (x : Binary64) : String := x.signed (x.shortest .even).scientific

end Binary64

end Decorate
