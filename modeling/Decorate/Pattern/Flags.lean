import Decorate.CharSet.Ascii
import Decorate.CharSet.Case
import Decorate.Text.Blank
import Decorate.Unicode.Property

/-!
# Flags of a pattern

What the text of a pattern means at a place depends on the flags in
force there: how case counts, what the anchors and the dot stand for,
and whether blanks and comments are part of the pattern. With the
Unicode flag off, sets hold ASCII characters only; a set that would
hold others is refused, and so is every complement.
-/

namespace Decorate

namespace Pattern

/-- The flags in force at a place of the pattern. -/
structure Flags where
  ignoreCase : Bool := false
  multiLine : Bool := false
  dotMatchesNewline : Bool := false
  crlf : Bool := false
  unicode : Bool := true
  /-- Blanks and comments between the parts of the pattern do not count. -/
  verbose : Bool := false

/-- Sets one flag; greediness has a flag that changes nothing here. -/
def Flags.set? (flags : Flags) (value : Bool) : Char → Option Flags
  | 'i' => some { flags with ignoreCase := value }
  | 'm' => some { flags with multiLine := value }
  | 's' => some { flags with dotMatchesNewline := value }
  | 'R' => some { flags with crlf := value }
  | 'u' => some { flags with unicode := value }
  | 'x' => some { flags with verbose := value }
  | 'U' => some flags
  | _ => none

/-- Reads flags up to the colon or parenthesis that ends them. `seen` holds the ones
read so far, the minus sign among them. The end comes back with the flags. -/
def readFlags :
    List Char → List Char → Flags → Option (Flags × List Char × Char × List Char)
  | seen, c :: rest, flags =>
    if c = ':' ∨ c = ')' then
      if seen.head? = some '-' then none else some (flags, seen, c, rest)
    else if seen.contains c then none
    else if c = '-' then readFlags ('-' :: seen) rest flags
    else
      match flags.set? (!seen.contains '-') c with
      | some flags => readFlags (c :: seen) rest flags
      | none => none
  | _, [], _ => none

/-! ## What does not count -/

/-- Drops blanks and comments; the flag says whether a comment is open. -/
def dropIgnored : Bool → List Char → List Char
  | _, [] => []
  | true, c :: rest => dropIgnored (c != '\n') rest
  | false, c :: rest =>
    if Text.isBlankChar c then dropIgnored false rest
    else if c = '#' then dropIgnored true rest
    else c :: rest

/-- Drops what does not count at this place. -/
def skip (flags : Flags) (cs : List Char) : List Char :=
  if flags.verbose then dropIgnored false cs else cs

/-- The characters at the start that are as asked, and the rest. What does not count may
stand between them; the last argument says whether a comment is open. -/
def takeLoose (flags : Flags) (asked : Char → Bool) : Bool → List Char → List Char × List Char
  | _, [] => ([], [])
  | true, c :: rest => takeLoose flags asked (c != '\n') rest
  | false, c :: rest =>
    if flags.verbose && Text.isBlankChar c then takeLoose flags asked false rest
    else if flags.verbose && c == '#' then takeLoose flags asked true rest
    else if asked c then
      let (taken, rest) := takeLoose flags asked false rest
      (c :: taken, rest)
    else ([], c :: rest)

/-- Reads what stands in braces, after the opening one. -/
def readBraced (flags : Flags) (cs : List Char) : Option (List Char × List Char) :=
  match takeLoose flags (· != '}') false cs with
  | (inside, '}' :: rest) => some (inside, rest)
  | _ => none

/-! ## Sets -/

/-- The set with all case variants, if case does not count. -/
def fold (flags : Flags) (s : CharSet) : CharSet :=
  if flags.ignoreCase then
    s.ignoringCase (if flags.unicode then .unicode else .ascii)
  else s

/-- The set, or its complement if asked for, case aside if it does not count. -/
def finish (flags : Flags) (negated : Bool) (s : CharSet) : Option CharSet :=
  if negated then if flags.unicode then some (fold flags s).compl else none
  else some (fold flags s)

def wordSet (flags : Flags) : CharSet :=
  if flags.unicode then Unicode.word else .asciiWord

/-- The sets of digits, blanks and word characters. Case makes no difference to them. -/
def letterSet? (flags : Flags) : Char → Option CharSet
  | 'd' => some (if flags.unicode then Unicode.Category.decimalNumber.set else .asciiDigit)
  | 's' => some (if flags.unicode then Unicode.whiteSpace else .asciiSpace)
  | 'w' => some (wordSet flags)
  | _ => none

/-- The set of the dot. -/
def dotSet? (flags : Flags) : Option CharSet :=
  if !flags.unicode then none
  else if flags.dotMatchesNewline then some .any
  else if flags.crlf then some (CharSet.single '\n' ∪ .single '\r').compl
  else some (CharSet.single '\n').compl

end Pattern

end Decorate
