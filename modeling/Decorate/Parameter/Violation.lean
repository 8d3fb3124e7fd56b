import Decorate.Parameter.Schema
import Decorate.Parameter.Value

/-!
# Violations and parameter errors

A `Violation` is a way in which a value can fail a shape; one inside a
list says at which item. A `ParameterError` puts a problem down to a
decorator and a parameter, and `ParameterErrors` holds all the problems
of one decorator's parameters.

The same violation is worded in two ways: in full for a parameter
(`Violation.describe`) and in short for an item of a list
(`Violation.reason`).
-/

namespace Decorate

inductive Violation where
  /-- The value is of another kind; `actual` names the kind of document it is. -/
  | wrongKind (expected : Kind) (actual : String)
  | notAllowed (value : String) (allowed : List String)
  | outOfRange (value : Binary64) (range : Bounds Double)
  | textLength (length : Nat) (bounds : Bounds UInt64)
  | listLength (length : Nat) (bounds : Bounds UInt64)
  | noMatch (value pattern : String)
  /-- The pattern to compare with is none. -/
  | badPattern (pattern : String)
  | item (index : Nat) (violation : Violation)
deriving DecidableEq

/-- The wording for an item of a list. -/
def Violation.reason : Violation → String
  | wrongKind expected actual => "expected " ++ expected.name ++ ", got " ++ actual
  | notAllowed value allowed => "`" ++ value ++ "` is not one of " ++ Text.join ", " allowed
  | outOfRange value _ => value.plain ++ " is out of range"
  | textLength length _ => "length " ++ showCount length ++ " is out of range"
  | listLength length _ => showCount length ++ " items is out of range"
  | noMatch value pattern => "`" ++ value ++ "` does not match `" ++ pattern ++ "`"
  | badPattern pattern => badPatternMessage pattern
  | item index violation => "item " ++ showCount index ++ ": " ++ violation.reason

/-- The wording for a parameter. -/
def Violation.describe (parameter : String) : Violation → String
  | wrongKind expected actual =>
    "parameter `" ++ parameter ++ "` expects " ++ expected.name ++ ", got " ++ actual
  | notAllowed value allowed =>
    "parameter `" ++ parameter ++ "` does not accept `" ++ value ++ "` (allowed: "
      ++ Text.join ", " allowed ++ ")"
  | outOfRange value range =>
    "parameter `" ++ parameter ++ "` value " ++ value.plain ++ " is outside "
      ++ range.describe Double.plain
  | textLength length bounds =>
    "parameter `" ++ parameter ++ "` has length " ++ showCount length ++ ", expected "
      ++ bounds.describe showWord
  | listLength length bounds =>
    "parameter `" ++ parameter ++ "` has " ++ showCount length ++ " items, expected "
      ++ bounds.describe showWord
  | noMatch value pattern =>
    "parameter `" ++ parameter ++ "` value `" ++ value ++ "` does not match `" ++ pattern ++ "`"
  | badPattern pattern =>
    "invalid schema for parameter `" ++ parameter ++ "`: " ++ badPatternMessage pattern
  | item index violation =>
    "parameter `" ++ parameter ++ "` item " ++ showCount index ++ " is invalid: "
      ++ violation.reason

/-! ## Errors of parameters -/

inductive Problem where
  | missing
  | unknown
  | violation (v : Violation)
  | defect (d : Defect)
deriving DecidableEq

structure ParameterError where
  decorator : String
  parameter : String
  problem : Problem
deriving DecidableEq

def ParameterError.message (e : ParameterError) : String :=
  e.decorator ++ ": " ++
    match e.problem with
    | .missing => "missing required parameter `" ++ e.parameter ++ "`"
    | .unknown => "unknown parameter `" ++ e.parameter ++ "`"
    | .violation v => v.describe e.parameter
    | .defect d => "invalid schema for parameter `" ++ e.parameter ++ "`: " ++ d.message

/-- The problems of one decorator's parameters, at least one. -/
structure ParameterErrors where
  decorator : String
  errors : List ParameterError
  nonempty : errors ≠ []
deriving DecidableEq

def ParameterErrors.message (es : ParameterErrors) : String :=
  "decorator `" ++ es.decorator ++ "` has " ++ showCount es.errors.length
    ++ " invalid parameter(s)"
    ++ Text.join "" (es.errors.map fun e => "\n  - " ++ e.message)

end Decorate
