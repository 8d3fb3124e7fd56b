import Decorate.Json.Basic
import Decorate.Version.Basic

/-!
# Invocations

What a user writes at the head of a prompt to ask for a decorator: its
name, perhaps the version wanted, and the arguments as written. A
prompt is read as a list of invocations and the text after them.
-/

namespace Decorate

structure Invocation where
  name : String
  version : Option Version := none
  parameters : Json.Members := []
deriving DecidableEq

structure Prompt where
  invocations : List Invocation
  /-- The text after the invocations, without the blanks before it. -/
  text : String
deriving DecidableEq

/-! ## Errors -/

/-- What was expected where an invocation goes wrong. -/
inductive Expectation where
  | decoratorName
  | parameterName
  | equalsSign (key : String)
  | value
  | argumentEnd (found : Char)
  | itemEnd (found : Char)
deriving DecidableEq, Repr

def Expectation.message : Expectation → String
  | decoratorName => "expected a decorator name after `+++`"
  | parameterName => "expected a parameter name"
  | equalsSign key => "expected `=` after `" ++ key ++ "`"
  | value => "expected a value"
  | argumentEnd found => "unexpected `" ++ found.toString ++ "` in arguments"
  | itemEnd found => "unexpected `" ++ found.toString ++ "` in list"

inductive InvocationError where
  /-- `position` counts the bytes before the place. -/
  | malformed (position : Nat) (expected : Expectation)
  | unterminated (decorator : String)
  | invalidVersion (decorator version : String)
deriving DecidableEq, Repr

def InvocationError.message : InvocationError → String
  | malformed position expected =>
    "malformed decorator invocation at byte " ++ String.ofList (Nat.toDigits 10 position) ++ ": "
      ++ expected.message
  | unterminated decorator => "unterminated argument list for `" ++ decorator ++ "`"
  | invalidVersion decorator version =>
    "invalid version `" ++ version ++ "` for `" ++ decorator ++ "`"

end Decorate
