import Decorate.Instance.Basic
import Decorate.Number.Numeral

/-!
# Written instances

The form in which an instance stands at the head of a prompt:
`+++Name(key=value, …)`, with the bound parameters in declared order
and no parentheses when there are none.

A text is written bare where it would be read back as the same text,
and quoted where it would be taken for something else: for nothing, for
a flag or a number, or for punctuation.
-/

namespace Decorate

namespace Value

/-- Characters that end or change a bare text. -/
def isPunctuation (c : Char) : Bool :=
  c == ',' || c == '(' || c == ')' || c == '[' || c == ']' || c == '=' || c == '"' || c == '\''
    || c == '\\'

/-- Holds of the texts that cannot be written bare. -/
def needsQuotes (s : String) : Bool :=
  s == "" || s == "true" || s == "false" || (Numeral.real? s.toList).isSome
    || s.toList.any fun c => Text.isBlankChar c || isPunctuation c

def quoteChar (c : Char) : List Char :=
  if c = '"' ∨ c = '\\' then ['\\', c]
  else if c = '\n' then ['\\', 'n']
  else if c = '\t' then ['\\', 't']
  else [c]

def quoted (s : String) : List Char := '"' :: (s.toList.flatMap quoteChar ++ ['"'])

mutual
/-- The written form of a value. -/
def literal : Value → List Char
  | bool true => ['t', 'r', 'u', 'e']
  | bool false => ['f', 'a', 'l', 's', 'e']
  | number x => x.plain.toList
  | text s => if needsQuotes s then quoted s else s.toList
  | list [] => ['[', ']']
  | list (item :: rest) => '[' :: (literal item ++ literalRest rest)

/-- The items after the first, and the closing bracket. -/
def literalRest : List Value → List Char
  | [] => [']']
  | item :: rest => ',' :: ' ' :: (literal item ++ literalRest rest)
end

end Value

namespace Instance

/-- The written form of a parameter. -/
def argument (name : String) (value : Value) : List Char :=
  name.toList ++ '=' :: value.literal

/-- The arguments after the first, and the closing parenthesis. -/
def argumentsRest : List (String × Value) → List Char
  | [] => [')']
  | (name, value) :: rest => ',' :: ' ' :: (argument name value ++ argumentsRest rest)

def arguments : List (String × Value) → List Char
  | [] => []
  | (name, value) :: rest => '(' :: (argument name value ++ argumentsRest rest)

def writtenChars (i : Instance) : List Char :=
  '+' :: '+' :: '+' :: (i.name.toList ++ arguments i.bound)

def written (i : Instance) : String := String.ofList i.writtenChars

end Instance

end Decorate
