import Decorate.Json.Basic
import Decorate.Number.Layout

/-!
# Numbers in documents

How a number of a document is read and written.

An integer is kept as it is when 64 bits can hold it. Any other number
is read in a fixed number of roundings instead of one: its digits are
collected into 64 bits (`Significand`), further digits only shift the
exponent or are dropped; the collected integer is rounded, then scaled
by one rounded power of ten. The result is the nearest number for
numerals of up to fifteen digits with a small exponent, and may be a
neighbour of it beyond. A number out of range is not readable.
-/

namespace Decorate

namespace Json

/-! ## Collecting digits -/

/-- The largest significand. -/
def significandLimit : Nat := 2 ^ (64 : Nat)

/-- Digits collected so far, and the power of ten that they are to be scaled by. -/
structure Significand where
  value : Nat
  exponent : Int
deriving DecidableEq, Repr

namespace Significand

def digitValue (c : Char) : Nat := c.toNat - '0'.toNat

/-- Collects the digits before the point. The first digit that does not fit and all
after it only raise the exponent. -/
def addWhole : List Char → Significand → Significand
  | [], s => s
  | c :: rest, s =>
    let next := 10 * s.value + digitValue c
    if next < significandLimit then addWhole rest ⟨next, s.exponent⟩
    else ⟨s.value, s.exponent + (rest.length + 1)⟩

/-- Collects the digits after the point up to the first that does not fit. -/
def addFraction : List Char → Significand → Significand
  | [], s => s
  | c :: rest, s =>
    let next := 10 * s.value + digitValue c
    if next < significandLimit then addFraction rest ⟨next, s.exponent - 1⟩ else s

end Significand

/-! ## Scaling -/

/-- The largest power of ten of the format. -/
def maxPower : Nat := 308

/-- `10 ^ n`, rounded. -/
def powerOfTen (n : Nat) : Binary64 := (Binary64.ofNat? false (10 ^ n)).getD .zero

/-- Divides by the largest power of ten until the exponent is in reach, then scales
once. -/
def scaleDown : Nat → Binary64 → Int → Option Binary64
  | 0, x, _ => some x
  | steps + 1, x, exponent =>
    if x.units = 0 then some x
    else if -(maxPower : Int) ≤ exponent then x.div? (powerOfTen exponent.natAbs)
    else
      match x.div? (powerOfTen maxPower) with
      | some y => scaleDown steps y (exponent + maxPower)
      | none => none

/-- Scales a number by a power of ten, unless the result is out of range. Three
divisions by the largest power leave nothing of any number. -/
def scaleByTen (x : Binary64) (exponent : Int) : Option Binary64 :=
  if 0 ≤ exponent then
    if x.units = 0 then some x
    else if exponent ≤ maxPower then x.mul? (powerOfTen exponent.toNat)
    else none
  else scaleDown 4 x exponent

/-- The number that collected digits stand for. -/
def Significand.toBinary64? (s : Significand) : Option Binary64 :=
  (Binary64.ofNat? false s.value).bind fun x => scaleByTen x s.exponent

/-! ## Reading -/

/-- The largest exponent that is taken at its word. -/
def exponentLimit : Nat := 2 ^ (31 : Nat)

/-- A number as it is spelt: sign, digits before and after the point, and the exponent
with its sign, if there is one. -/
structure Spelling where
  negative : Bool
  whole : List Char
  fraction : List Char
  exponent : Option (Bool × List Char)
deriving DecidableEq, Repr

namespace Spelling

/-- An exponent beyond the limit makes the number zero, unless it is positive and there
is something to scale. -/
def scaled (s : Significand) (negativeExponent : Bool) (digits : List Char) :
    Option Binary64 :=
  let e := Nat.ofDigitChars 10 digits 0
  if e < exponentLimit then
    let shift : Int := if negativeExponent then -(e : Int) else e
    Significand.toBinary64? { s with exponent := s.exponent + shift }
  else if s.value ≠ 0 ∧ negativeExponent = false then none
  else some .zero

def real? (n : Spelling) : Option Binary64 :=
  let s := Significand.addFraction n.fraction (Significand.addWhole n.whole ⟨0, 0⟩)
  let magnitude :=
    match n.exponent with
    | none => s.toBinary64?
    | some (negativeExponent, digits) => scaled s negativeExponent digits
  magnitude.map fun x => if n.negative then x.negate else x

def integer (n : Spelling) : Int :=
  let i : Int := Nat.ofDigitChars 10 n.whole 0
  if n.negative then -i else i

/-- A minus sign makes zero a real number: integers have no negative zero. An integer
below zero must fit the signed half of the words. -/
def isWhole (n : Spelling) : Bool :=
  n.fraction.isEmpty && n.exponent.isNone && !(n.negative && n.integer == 0)

def toNumber? (n : Spelling) : Option Number :=
  if n.isWhole then
    match Number.ofInt? n.integer with
    | some whole => some whole
    | none => n.real?.map .real
  else n.real?.map .real

end Spelling

/-- Takes the digits at the start. -/
def takeDigits (cs : List Char) : List Char × List Char :=
  (cs.takeWhile Char.isDigit, cs.dropWhile Char.isDigit)

/-- Reads a point and the digits after it, if a point is there. -/
def readFraction : List Char → Option (List Char × List Char)
  | '.' :: rest =>
    match takeDigits rest with
    | ([], _) => none
    | (digits, rest) => some (digits, rest)
  | cs => some ([], cs)

/-- Reads an exponent, if one is there. -/
def readExponent : List Char → Option (Option (Bool × List Char) × List Char)
  | [] => some (none, [])
  | c :: rest =>
    if c = 'e' ∨ c = 'E' then
      let (negative, rest) :=
        match rest with
        | '-' :: rest => (true, rest)
        | '+' :: rest => (false, rest)
        | rest => (false, rest)
      match takeDigits rest with
      | ([], _) => none
      | (digits, rest) => some (some (negative, digits), rest)
    else some (none, c :: rest)

/-- Reads the digits before the point: a single zero, or digits that start with
another. -/
def readWhole (cs : List Char) : Option (List Char × List Char) :=
  match takeDigits cs with
  | ([], _) => none
  | ('0' :: _ :: _, _) => none
  | (digits, rest) => some (digits, rest)

/-- Reads the number at the start of a text. -/
def readNumber (cs : List Char) : Option (Number × List Char) := do
  let (negative, cs) :=
    match cs with
    | '-' :: rest => (true, rest)
    | cs => (false, cs)
  let (whole, cs) ← readWhole cs
  let (fraction, cs) ← readFraction cs
  let (exponent, cs) ← readExponent cs
  let number ← Spelling.toNumber? { negative, whole, fraction, exponent }
  return (number, cs)

/-! ## Writing -/

def Number.text : Number → String
  | whole i _ =>
    String.ofList ((if i < 0 then ['-'] else []) ++ Nat.toDigits 10 i.natAbs)
  | real x => x.scientific

/-! ## From exact values -/

/-- The integers up to this size are all binary64 numbers. -/
def exactIntegerLimit : Nat := 2 ^ (53 : Nat)

/-- The number as a document writes it: an integer when it is one of a size that the
format holds exactly, a real number otherwise. -/
def Number.ofBinary64 (x : Binary64) : Number :=
  if x.isIntegral && x.whole ≤ exactIntegerLimit then
    (Number.ofInt? x.toWhole).getD (.real x)
  else .real x

end Json

end Decorate
