import Decorate.Pattern.Basic
import Decorate.Pattern.Flags
import Decorate.Text.Hex
import Decorate.Unicode.Name

/-!
# Escapes in patterns

What may follow a backslash: a control letter, a code point in
hexadecimal digits, a set of characters by letter or by the name of a
property, a condition on the place, or an ASCII character that is
neither letter nor digit nor angle bracket and stands for itself.
-/

namespace Decorate

namespace Pattern

/-- What an escape stands for. -/
inductive Escape where
  | char (c : Char)
  | set (s : CharSet)
  | look (condition : Look)

/-! ## Code points -/

/-- The character whose code point the digits give. -/
def charOfDigits? (digits : List Char) : Option Char :=
  (Text.hexValue? digits).bind fun n => if n.isValidChar then some (Char.ofNat n) else none

/-- Reads so many digits. -/
def readDigits (flags : Flags) : Nat → List Char → Option (List Char × List Char)
  | 0, cs => some ([], cs)
  | count + 1, c :: cs => do
    let (digits, rest) ← readDigits flags count (skip flags cs)
    return (c :: digits, rest)
  | _ + 1, [] => none

/-- Reads a code point: in braces, or in as many digits as given. Two digits write a byte,
which with the Unicode flag off is a character only if it is ASCII. -/
def readCode (flags : Flags) (count : Nat) (cs : List Char) : Option (Char × List Char) :=
  match skip flags cs with
  | '{' :: rest => do
    let (digits, rest) ← readBraced flags rest
    return (← charOfDigits? digits, rest)
  | cs => do
    let (digits, rest) ← readDigits flags count cs
    let c ← charOfDigits? digits
    if count = 2 ∧ ¬flags.unicode ∧ 0x80 ≤ c.toNat then none
    return (c, rest)

/-! ## Properties -/

/-- Splits at the first sign for inequality. -/
def splitUnequal : List Char → Option (List Char × List Char)
  | '!' :: '=' :: rest => some ([], rest)
  | c :: rest => (splitUnequal rest).map fun (name, value) => (c :: name, value)
  | [] => none

/-- Splits at the first of the marks. -/
def splitMark (mark : Char) (cs : List Char) : Option (List Char × List Char) :=
  match cs.dropWhile (· != mark) with
  | _ :: value => some (cs.takeWhile (· != mark), value)
  | [] => none

/-- The set that a name stands for, with or without a value, and whether the value is
ruled out. -/
def propertySet? (name : List Char) : Option (Bool × CharSet) :=
  match splitUnequal name with
  | some (name, value) => (Unicode.ofNameAndValue? name value).map (true, ·)
  | none =>
    match splitMark ':' name <|> splitMark '=' name with
    | some (name, value) => (Unicode.ofNameAndValue? name value).map (false, ·)
    | none => (Unicode.ofName? name).map (false, ·)

/-- Reads a name of one letter, or one in braces. -/
def readPropertyName (flags : Flags) (cs : List Char) : Option (List Char × List Char) :=
  match skip flags cs with
  | [] | '\\' :: _ => none
  | '{' :: rest => readBraced flags rest
  | c :: rest => some ([c], rest)

def readProperty (flags : Flags) (negated : Bool) (cs : List Char) :
    Option (CharSet × List Char) := do
  if !flags.unicode then none
  let (name, rest) ← readPropertyName flags cs
  let (ruledOut, s) ← propertySet? name
  return (← finish flags (negated != ruledOut) s, rest)

/-! ## Conditions -/

/-- The kinds of half and whole word boundaries that go by a name. -/
def namedBoundary? (word : CharSet) : String → Option Look
  | "start" => some (.wordStart word)
  | "end" => some (.wordEnd word)
  | "start-half" => some (.wordStartHalf word)
  | "end-half" => some (.wordEndHalf word)
  | _ => none

/-- Reads what may follow the `b` of a word boundary. A brace that no letter follows
starts a repetition instead. -/
def readBoundary (flags : Flags) (cs : List Char) : Option (Look × List Char) :=
  let isNameChar (c : Char) := c.isAlpha || c == '-'
  let plain := Look.boundary (wordSet flags)
  match cs with
  | '{' :: rest =>
    match takeLoose flags isNameChar false rest with
    | (_, []) => none
    | ([], _) => some (plain, cs)
    | (name, '}' :: rest) => do
      return (← namedBoundary? (wordSet flags) (String.ofList name), rest)
    | _ => none
  | cs => some (plain, cs)

/-- The conditions that a letter or a bracket stands for. -/
def letterLook? (flags : Flags) : Char → Option Look
  | 'B' => some (.notBoundary (wordSet flags))
  | '<' => some (.wordStart (wordSet flags))
  | '>' => some (.wordEnd (wordSet flags))
  | 'A' => some .textStart
  | 'z' => some .textEnd
  | _ => none

/-! ## Characters -/

def controlLetter? : Char → Option Char
  | 'a' => some '\x07'
  | 'f' => some '\x0c'
  | 't' => some '\t'
  | 'n' => some '\n'
  | 'r' => some '\r'
  | 'v' => some '\x0b'
  | _ => none

/-- Characters that may stand for themselves after a backslash. -/
def isEscapable (c : Char) : Bool :=
  c.toNat < 128 && !c.isAlphanum && c != '<' && c != '>'

/-- Reads an escape after its backslash. -/
def readEscape (flags : Flags) : List Char → Option (Escape × List Char)
  | [] => none
  | c :: rest =>
    match c with
    | 'x' => (readCode flags 2 rest).map fun (c, rest) => (.char c, rest)
    | 'u' => (readCode flags 4 rest).map fun (c, rest) => (.char c, rest)
    | 'U' => (readCode flags 8 rest).map fun (c, rest) => (.char c, rest)
    | 'p' => (readProperty flags false rest).map fun (s, rest) => (.set s, rest)
    | 'P' => (readProperty flags true rest).map fun (s, rest) => (.set s, rest)
    | 'b' => (readBoundary flags rest).map fun (l, rest) => (.look l, rest)
    | c =>
      match letterSet? flags c.toLower, letterLook? flags c, controlLetter? c with
      | some s, _, _ =>
        if c.isLower then some (.set s, rest)
        else if flags.unicode then some (.set s.compl, rest)
        else none
      | none, some l, _ => some (.look l, rest)
      | none, none, some control => some (.char control, rest)
      | none, none, none => if isEscapable c then some (.char c, rest) else none

end Pattern

end Decorate
