import Decorate.Registry

/-!
# Rejected requests

The reasons for which a request is rejected as a whole.
-/

namespace Decorate

inductive PlanError where
  | conflict (first second : String)
  /-- The names missing are in ascending order. -/
  | missingRequired (decorator : String) (missing : List String)
  | misplacedVersion (position : Nat)
  | conflictingReplace (first second : String)
  | invalidStandard (value : String)
  | unsupportedStandard (decorator : String) (standard : Version)
  | unsupportedModel (decorator model : String)
  | invalidReference (referring reference : String)
  /-- A name that another decorator mentions could not be resolved. -/
  | registry (e : RegistryError)
  /-- A decorator that another one mentions could not be bound with its defaults. -/
  | binding (es : ParameterErrors)
deriving DecidableEq

def PlanError.message : PlanError → String
  | conflict first second => "decorators `" ++ first ++ "` and `" ++ second ++ "` conflict"
  | missingRequired decorator missing =>
    "decorator `" ++ decorator ++ "` requires " ++ Text.join ", " missing
  | misplacedVersion position =>
    "the Version decorator must come first, found at position " ++ showCount position
  | conflictingReplace first second =>
    "decorators `" ++ first ++ "` and `" ++ second ++ "` both replace the prompt"
  | invalidStandard value => "invalid standard version `" ++ value ++ "`"
  | unsupportedStandard decorator standard =>
    "decorator `" ++ decorator ++ "` does not support standard version " ++ standard.text
  | unsupportedModel decorator model =>
    "decorator `" ++ decorator ++ "` does not support model `" ++ model ++ "`"
  | invalidReference referring reference =>
    "`" ++ referring ++ "` cannot reference meta-decorator `" ++ reference ++ "`"
  | registry e => e.message
  | binding es => es.message

end Decorate
