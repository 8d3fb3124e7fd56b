import Decorate.Json.Number

/-!
# Writing documents

The compact form of a document: no blanks, members in their order, and
in strings only quotes, backslashes and control characters escaped.
-/

namespace Decorate

namespace Json

/-- Two hexadecimal digits for a control character. -/
def hexPair (n : Nat) : List Char := [Nat.digitChar (n / 16), Nat.digitChar (n % 16)]

def escapeChar (c : Char) : List Char :=
  if c = '"' then ['\\', '"']
  else if c = '\\' then ['\\', '\\']
  else if c = '\x08' then ['\\', 'b']
  else if c = '\x0c' then ['\\', 'f']
  else if c = '\n' then ['\\', 'n']
  else if c = '\r' then ['\\', 'r']
  else if c = '\t' then ['\\', 't']
  else if c.toNat < 0x20 then '\\' :: 'u' :: '0' :: '0' :: hexPair c.toNat
  else [c]

def quoteChars (s : String) : List Char := '"' :: (s.toList.flatMap escapeChar ++ ['"'])

mutual
def writeChars : Json → List Char
  | null => ['n', 'u', 'l', 'l']
  | bool true => ['t', 'r', 'u', 'e']
  | bool false => ['f', 'a', 'l', 's', 'e']
  | num n => n.text.toList
  | str s => quoteChars s
  | arr [] => ['[', ']']
  | arr (item :: rest) => '[' :: (writeChars item ++ writeItems rest)
  | obj [] => ['{', '}']
  | obj ((key, value) :: rest) =>
    '{' :: (quoteChars key ++ ':' :: (writeChars value ++ writeMembers rest))

/-- The items after the first, and the closing bracket. -/
def writeItems : List Json → List Char
  | [] => [']']
  | item :: rest => ',' :: (writeChars item ++ writeItems rest)

/-- The members after the first, and the closing brace. -/
def writeMembers : List (String × Json) → List Char
  | [] => ['}']
  | (key, value) :: rest =>
    ',' :: (quoteChars key ++ ':' :: (writeChars value ++ writeMembers rest))
end

/-- The compact text of a document. -/
def write (j : Json) : String := String.ofList (writeChars j)

end Json

end Decorate
