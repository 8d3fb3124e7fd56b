import Decorate.Plan.Checks
import Decorate.Plan.Expansion

/-!
# Plans

A plan is a request that has been checked and expanded: the standard
version that it was checked against, and its steps in order. The checks
run in a fixed order, and the first that fails rejects the request.
-/

namespace Decorate

structure Plan where
  standard : Version
  steps : List Step
deriving DecidableEq

namespace Plan

/-- The checks on an expanded request, in order: conflicts, requirements, standard
version, model, replacements. -/
def check (config : Config) (standard : Version) (request : List Instance) (steps : List Step) :
    Except PlanError Unit := do
  checkConflicts steps
  checkRequirements (presentNames request steps) (involved request steps)
  checkStandard standard (involved request steps)
  checkModels config (involved request steps)
  checkReplacements steps

/-- Checks and expands a request. -/
def ofRequest (registry : Registry) (config : Config) (request : List Instance) :
    Except PlanError Plan := do
  let standard ← standardVersion config request
  let steps ← Expansion.expand registry request
  check config standard request steps
  return { standard, steps }

end Plan

end Decorate
