import Decorate.Invocation.Reader
import Decorate.Plan.Layout

/-!
# Applying decorators to a text

From a text with invocations at its head to the composed prompt: the
invocations are read, each is resolved in the registry and bound to its
arguments, and the instances are composed around the rest of the text.
-/

namespace Decorate

inductive ApplyError where
  | invocation (e : InvocationError)
  | registry (e : RegistryError)
  | validation (es : ParameterErrors)
  | plan (e : PlanError)
deriving DecidableEq

def ApplyError.message : ApplyError → String
  | invocation e => e.message
  | registry e => e.message
  | validation es => es.message
  | plan e => e.message

/-- Resolves an invocation and binds it to its arguments. -/
def Invocation.bind (registry : Registry) (i : Invocation) : Except ApplyError Instance :=
  match registry.lookup i.name i.version with
  | .error e => .error (.registry e)
  | .ok d =>
    match Instance.bind d i.parameters with
    | .error es => .error (.validation es)
    | .ok bound => .ok bound

/-- Binds invocations one after the other and stops at the first that fails. -/
def Invocation.bindAll (registry : Registry) : List Invocation → Except ApplyError (List Instance)
  | [] => .ok []
  | i :: rest =>
    match i.bind registry with
    | .error e => .error e
    | .ok bound =>
      match bindAll registry rest with
      | .error e => .error e
      | .ok instances => .ok (bound :: instances)

/-- The prompt that a text with invocations at its head stands for. -/
def apply (registry : Registry) (config : Config) (text : String) : Except ApplyError String :=
  match Prompt.read text with
  | .error e => .error (.invocation e)
  | .ok prompt =>
    match Invocation.bindAll registry prompt.invocations with
    | .error e => .error e
    | .ok request =>
      match compose registry config request prompt.text with
      | .error e => .error (.plan e)
      | .ok output => .ok output

end Decorate
