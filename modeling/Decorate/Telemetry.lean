import Decorate.Json.Fields
import Decorate.Json.Reader
import Decorate.Text.Blank
import Decorate.Unicode.Property

/-!
# Telemetry settings

How a program that composes prompts reports what it does: which filter
chooses the messages, whether they name their source, and whether they
are coloured. The filter of the environment goes before the configured
one unless it is blank.

A filter is a comma-separated list of directives, each a level, a
target, or a target with a level.
-/

namespace Decorate

structure Telemetry where
  directive : String := "info"
  withTarget : Bool := false
  ansi : Bool := true
deriving DecidableEq, Repr

namespace Telemetry

/-! ## Settings -/

def fields : List String := ["directive", "withTarget", "ansi"]

def ofJson? (j : Json) : Option Telemetry := do
  let ms ← j.record? fields
  let directive ← Json.defaulted? ms "directive" "info" Json.asText?
  let withTarget ← Json.defaulted? ms "withTarget" false Json.asBool?
  let ansi ← Json.defaulted? ms "ansi" true Json.asBool?
  return { directive, withTarget, ansi }

/-! ## Filters -/

/-- The pieces of a list between its commas. -/
def splitCommas : List Char → List Char → List (List Char)
  | [], piece => [piece.reverse]
  | c :: rest, piece =>
    if c = ',' then piece.reverse :: splitCommas rest [] else splitCommas rest (c :: piece)

/-- The names of the levels, from the one that reports least; a level also goes by its
number in this row. -/
def levels : List String := ["off", "error", "warn", "info", "debug", "trace"]

/-- Holds of the digits of a level's number, perhaps after a plus sign. -/
def isLevelNumber (cs : List Char) : Bool :=
  let digits := if cs.head? = some '+' then cs.drop 1 else cs
  digits ≠ [] && digits.all Char.isDigit && Nat.ofDigitChars 10 digits 0 < levels.length

def isLevel (cs : List Char) : Bool :=
  levels.contains (String.ofList (cs.map Char.toLower)) || isLevelNumber cs

def isDirectiveStart (c : Char) : Bool :=
  c == '-' || c == ':' || c == '_' || Unicode.alphanumeric.contains c

/-- Holds of a target or level, and of a target with an equals sign and a level or
nothing behind it. -/
def isDirective (cs : List Char) : Bool :=
  cs.head?.any isDirectiveStart
    && match cs.dropWhile (· != '=') with
      | [] => true
      | _ :: level => level.isEmpty || isLevel level

/-- Empty directives do not count. -/
def isFilter (text : String) : Bool :=
  (splitCommas text.toList []).all fun piece => piece.isEmpty || isDirective piece

/-- The filter in force, given that of the environment. -/
def effective (t : Telemetry) (environment : Option String) : String :=
  (environment.filter fun text => !Text.isBlank text).getD t.directive

/-- The filter in force if it is one, or else its text as the error. -/
def filter (t : Telemetry) (environment : Option String) : Except String String :=
  let text := t.effective environment
  if isFilter text then .ok text else .error text

end Telemetry

end Decorate
