import Decorate.Config
import Decorate.Plan.Error
import Decorate.Plan.Step

/-!
# Checks

The rules that a request must keep before anything is rendered. Each
check returns the first violation that it finds.
-/

namespace Decorate

namespace Plan

/-- The definitions that take part: those of the request, then those of the steps. -/
def involved (request : List Instance) (steps : List Step) : List Definition :=
  request.map Instance.definition ++ steps.map Step.definition

/-! ## Standard version -/

/-- The standard version that a `Version` decorator asks for, if it does. -/
def requestedStandard (i : Instance) : Except PlanError (Option Version) :=
  match (i.get? "standard").bind Value.asText? with
  | none => .ok none
  | some value =>
    match Version.ofString value with
    | .ok v => .ok (some v)
    | .error _ => .error (.invalidStandard value)

/-- Refuses a `Version` decorator among instances that start at `position`. -/
def checkNoVersion : Nat → List Instance → Except PlanError Unit
  | _, [] => .ok ()
  | position, i :: rest =>
    if i.name = Meta.version.name then .error (.misplacedVersion position)
    else checkNoVersion (position + 1) rest

/-- The standard version of a request: that of a `Version` decorator in front, or the
configured one. -/
def standardVersion (config : Config) : List Instance → Except PlanError Version
  | [] => .ok config.standard
  | i :: rest =>
    let requested :=
      if i.name = Meta.version.name then requestedStandard i else .ok none
    match requested with
    | .error e => .error e
    | .ok standard =>
      match checkNoVersion 1 rest with
      | .error e => .error e
      | .ok () => .ok (standard.getD config.standard)

/-! ## Conflicts -/

/-- Holds when either step declares a conflict with the other and nothing excuses it:
they are of different names, and no `Priority` has settled their precedence. -/
def inConflict (s t : Step) : Bool :=
  s.name != t.name && !s.sharesPriority t
    && (s.definition.compatibility.conflictsWith t.name
      || t.definition.compatibility.conflictsWith s.name)

def checkConflicts : List Step → Except PlanError Unit
  | [] => .ok ()
  | s :: rest =>
    match rest.find? (inConflict s) with
    | some t => .error (.conflict s.name t.name)
    | none => checkConflicts rest

/-! ## Requirements -/

/-- The names that are there, before expansion or after. -/
def presentNames (request : List Instance) (steps : List Step) : List String :=
  request.map Instance.name ++ steps.map Step.name

def missingNames (present : List String) (d : Definition) : List String :=
  (d.compatibility.requires.toList.map Name.text).filter fun name => !present.contains name

def checkRequirements (present : List String) : List Definition → Except PlanError Unit
  | [] => .ok ()
  | d :: rest =>
    match missingNames present d with
    | [] => checkRequirements present rest
    | missing => .error (.missingRequired d.name.text missing)

/-! ## Standard and model -/

def checkStandard (standard : Version) (definitions : List Definition) : Except PlanError Unit :=
  match definitions.find? fun d => !d.compatibility.standard.contains standard with
  | some d => .error (.unsupportedStandard d.name.text standard)
  | none => .ok ()

/-- Models only matter where one is configured and the configuration is strict. -/
def checkModels (config : Config) (definitions : List Definition) : Except PlanError Unit :=
  match config.model with
  | none => .ok ()
  | some model =>
    match definitions.find? fun d => !d.compatibility.supportsModel model with
    | some d => if config.strict then .error (.unsupportedModel d.name.text model) else .ok ()
    | none => .ok ()

/-! ## Replacements -/

/-- At most one step may take the place of the prompt. -/
def checkReplacements (steps : List Step) : Except PlanError Unit :=
  match steps.filter (·.placement.replacesPrompt) with
  | s :: t :: _ => .error (.conflictingReplace s.name t.name)
  | _ => .ok ()

end Plan

end Decorate
