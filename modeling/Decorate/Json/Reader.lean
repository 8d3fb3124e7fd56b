import Decorate.Json.Number
import Decorate.Text.Hex

/-!
# Reading documents

A recursive descent over the characters of a text. Each function reads
what stands at the start of the text and returns it with the rest, or
nothing if the text is not well-formed there.

Two numbers bound the recursion. `fuel` is only there to make it
structural: `Json.read?` passes the length of the text, which is more
than a descent can use, since every step consumes a character. `depth`
is a rule of the format: how many arrays and objects may enclose a
value.
-/

namespace Decorate

namespace Json

/-! ## Strings -/

def isJsonBlank (c : Char) : Bool := c == ' ' || c == '\t' || c == '\n' || c == '\r'

def skipBlanks (cs : List Char) : List Char := cs.dropWhile isJsonBlank

/-- The character that stands after a backslash in place of another. -/
def simpleEscape? : Char → Option Char
  | '"' => some '"'
  | '\\' => some '\\'
  | '/' => some '/'
  | 'b' => some '\x08'
  | 'f' => some '\x0c'
  | 'n' => some '\n'
  | 'r' => some '\r'
  | 't' => some '\t'
  | _ => none

def isHighSurrogate (unit : Nat) : Bool := 0xd800 ≤ unit && unit < 0xdc00

def isLowSurrogate (unit : Nat) : Bool := 0xdc00 ≤ unit && unit < 0xe000

/-- The character that a pair of surrogates encodes. -/
def ofSurrogates (high low : Nat) : Char :=
  Char.ofNat (0x10000 + (high - 0xd800) * 0x400 + (low - 0xdc00))

/-- Reads the characters of a string up to its closing quote. Control characters must
be escaped, and an escaped surrogate must be half of a pair. -/
def readChars : List Char → Option (List Char × List Char)
  | [] => none
  | c :: rest =>
    if c = '"' then some ([], rest)
    else if c = '\\' then
      match rest with
      | 'u' :: h1 :: h2 :: h3 :: h4 :: rest =>
        match Text.hexValue? [h1, h2, h3, h4] with
        | none => none
        | some unit =>
          if isLowSurrogate unit then none
          else if isHighSurrogate unit then
            match rest with
            | '\\' :: 'u' :: l1 :: l2 :: l3 :: l4 :: rest =>
              match Text.hexValue? [l1, l2, l3, l4] with
              | none => none
              | some low =>
                if isLowSurrogate low then
                  (readChars rest).map fun (cs, tail) => (ofSurrogates unit low :: cs, tail)
                else none
            | _ => none
          else (readChars rest).map fun (cs, tail) => (Char.ofNat unit :: cs, tail)
      | e :: rest =>
        match simpleEscape? e with
        | none => none
        | some escaped => (readChars rest).map fun (cs, tail) => (escaped :: cs, tail)
      | [] => none
    else if c.toNat < 0x20 then none
    else (readChars rest).map fun (cs, tail) => (c :: cs, tail)

def readString (cs : List Char) : Option (String × List Char) :=
  (readChars cs).map fun (text, rest) => (String.ofList text, rest)

/-! ## Values -/

mutual
/-- Reads a value after any blanks. -/
def readValue : Nat → Nat → List Char → Option (Json × List Char)
  | 0, _, _ => none
  | fuel + 1, depth, cs =>
    match skipBlanks cs with
    | '"' :: rest => (readString rest).map fun (text, rest) => (str text, rest)
    | '{' :: rest =>
      match depth with
      | 0 => none
      | depth + 1 =>
        match skipBlanks rest with
        | '}' :: rest => some (obj [], rest)
        | rest => (readMembers fuel depth rest).map fun (ms, rest) => (obj ms, rest)
    | '[' :: rest =>
      match depth with
      | 0 => none
      | depth + 1 =>
        match skipBlanks rest with
        | ']' :: rest => some (arr [], rest)
        | rest => (readItems fuel depth rest).map fun (items, rest) => (arr items, rest)
    | 't' :: 'r' :: 'u' :: 'e' :: rest => some (bool true, rest)
    | 'f' :: 'a' :: 'l' :: 's' :: 'e' :: rest => some (bool false, rest)
    | 'n' :: 'u' :: 'l' :: 'l' :: rest => some (null, rest)
    | rest => (readNumber rest).map fun (n, rest) => (num n, rest)

/-- Reads the items of an array, at least one, and the closing bracket. -/
def readItems : Nat → Nat → List Char → Option (List Json × List Char)
  | 0, _, _ => none
  | fuel + 1, depth, cs =>
    match readValue fuel depth cs with
    | none => none
    | some (item, rest) =>
      match skipBlanks rest with
      | ']' :: rest => some ([item], rest)
      | ',' :: rest =>
        (readItems fuel depth rest).map fun (items, rest) => (item :: items, rest)
      | _ => none

/-- Reads the members of an object, at least one, and the closing brace. -/
def readMembers : Nat → Nat → List Char → Option (Members × List Char)
  | 0, _, _ => none
  | fuel + 1, depth, cs =>
    match skipBlanks cs with
    | '"' :: rest =>
      match readString rest with
      | none => none
      | some (key, rest) =>
        match skipBlanks rest with
        | ':' :: rest =>
          match readValue fuel depth rest with
          | none => none
          | some (value, rest) =>
            match skipBlanks rest with
            | '}' :: rest => some ([(key, value)], rest)
            | ',' :: rest =>
              (readMembers fuel depth rest).map fun (ms, rest) => ((key, value) :: ms, rest)
            | _ => none
        | _ => none
    | _ => none
end

/-! ## Whole texts -/

/-- How deep a document may be nested. -/
def maxDepth : Nat := 127

/-- Reads a text that holds one value and nothing else but blanks. Repeated members are
kept. -/
def readWithin? (depth : Nat) (text : String) : Option Json :=
  let cs := text.toList
  match readValue (2 * cs.length + 2) depth cs with
  | some (value, rest) => if skipBlanks rest = [] then some value else none
  | none => none

def read? (text : String) : Option Json := readWithin? maxDepth text

end Json

end Decorate
