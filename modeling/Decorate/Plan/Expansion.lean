import Decorate.Plan.Error
import Decorate.Plan.Step

/-!
# Expansion

From a request to its steps. The request is gone through from the left;
each decorator that arranges others claims the instances that it uses,
or drops, and turns into steps in its own place. What nobody has
claimed in the end stands for itself.

A name that is mentioned stands for the first instance of that name
that is not claimed yet, wherever it is in the request, and otherwise
for the latest registered definition with its defaults. Decorators that
arrange others cannot be mentioned.
-/

namespace Decorate

namespace Expansion

/-- The instances that are asked for, in order. -/
abbrev Request := List Instance

/-- The places in a request that have been claimed. -/
abbrev Claims := List Nat

/-- An instance that a name was resolved to. -/
structure Member where
  inst : Instance
  origin : Origin
deriving DecidableEq

/-! ## Resolving names -/

/-- The first place from `position` on with an unclaimed instance of the name, and the
instance. -/
def unclaimedFrom? (claims : Claims) (name : String) : Nat → Request → Option (Nat × Instance)
  | _, [] => none
  | position, i :: rest =>
    if i.name = name ∧ position ∉ claims then some (position, i)
    else unclaimedFrom? claims name (position + 1) rest

def unclaimed? (request : Request) (claims : Claims) (name : String) : Option (Nat × Instance) :=
  unclaimedFrom? claims name 0 request

/-- Resolves one name. Where `strict` is off a name that the registry cannot serve
stands for nothing. -/
def resolve (registry : Registry) (request : Request) (referring : String) (strict : Bool)
    (claims : Claims) (name : String) : Except PlanError (Option Member × Claims) :=
  if (Meta.ofName? name).isSome then .error (.invalidReference referring name)
  else
    match unclaimed? request claims name with
    | some (position, i) => .ok (some ⟨i, .request position⟩, position :: claims)
    | none =>
      match registry.lookup name none with
      | .ok d =>
        match Instance.withDefaults d with
        | .ok i => .ok (some ⟨i, .registry⟩, claims)
        | .error es => .error (.binding es)
      | .error e => if strict then .error (.registry e) else .ok (none, claims)

/-- Resolves names one after the other. -/
def resolveAll (registry : Registry) (request : Request) (referring : String) (strict : Bool) :
    Claims → List String → Except PlanError (List Member × Claims)
  | claims, [] => .ok ([], claims)
  | claims, name :: rest =>
    match resolve registry request referring strict claims name with
    | .error e => .error e
    | .ok (member, claims) =>
      match resolveAll registry request referring strict claims rest with
      | .error e => .error e
      | .ok (members, claims) => .ok (member.toList ++ members, claims)

/-- Claims one unclaimed instance for each name, where there is one. -/
def drop (request : Request) : Claims → List String → Claims
  | claims, [] => claims
  | claims, name :: rest =>
    match unclaimed? request claims name with
    | some (position, _) => drop request (position :: claims) rest
    | none => drop request claims rest

/-! ## The decorators that arrange others -/

/-- The names in a list parameter. -/
def names (i : Instance) (parameter : String) : List String :=
  ((i.get? parameter).map Value.textItems).getD []

def flag (i : Instance) (parameter : String) (default : Bool) : Bool :=
  ((i.get? parameter).bind Value.asBool?).getD default

def text? (i : Instance) (parameter : String) : Option String :=
  (i.get? parameter).bind Value.asText?

def stepOf (m : Member) (introducedBy : Option String) : Step :=
  { inst := m.inst, origin := m.origin, behavior := m.inst.behavior, introducedBy }

/-- Holds when another place of the request has an instance of the name. -/
def presentElsewhere (name : Option String) (position : Nat) (request : Request) : Bool :=
  request.zipIdx.any fun (i, other) => other != position && some i.name == name

/-- The step of a member of a `Priority`. -/
def ranked (mode : PriorityMode) (highest : Option String) (group : Nat) (m : Member) : Step :=
  let step := { stepOf m (some Meta.priority.name) with priorityGroup := some group }
  match mode with
  | .override => step
  | .merge => { step with behavior := .accumulate }
  | .cascade => { step with behavior := .accumulate, subordinateTo := highest }

/-- Keeps the first step of each placement; `taken` holds the placements that are
taken. -/
def firstOfEachPlacement : List Placement → List Step → List Step
  | _, [] => []
  | taken, s :: rest =>
    if taken.contains s.placement then firstOfEachPlacement taken rest
    else s :: firstOfEachPlacement (s.placement :: taken) rest

/-- The steps of a `Priority` at the given place, from its members by falling
priority. -/
def prioritize (mode : PriorityMode) (explicit : Bool) (group : Nat) : List Member → List Step
  | [] => []
  | first :: rest =>
    let highest := if explicit then some first.inst.name else none
    let steps := ranked mode none group first :: rest.map (ranked mode highest group)
    if mode = .override then firstOfEachPlacement [] steps else steps

/-- The steps that a decorator which arranges others turns into, at its place in the
request. -/
def expandMeta (registry : Registry) (request : Request) (kind : Meta) (i : Instance)
    (position : Nat) (claims : Claims) : Except PlanError (List Step × Claims) :=
  match kind with
  | .version => .ok ([], claims)
  | .chain =>
    match resolveAll registry request i.name (flag i "stopOnFailure" true) claims
        (names i "decorators") with
    | .error e => .error e
    | .ok (members, claims) => .ok (members.map (stepOf · (some Meta.chain.name)), claims)
  | .conditional =>
    let holds := presentElsewhere (text? i "condition") position request
    let chosen := names i (if holds then "then" else "otherwise")
    let rejected := names i (if holds then "otherwise" else "then")
    match resolveAll registry request i.name true (drop request claims rejected) chosen with
    | .error e => .error e
    | .ok (members, claims) => .ok (members.map (stepOf · (some Meta.conditional.name)), claims)
  | .priority =>
    match resolveAll registry request i.name true claims (names i "decorators") with
    | .error e => .error e
    | .ok (members, claims) =>
      let mode := PriorityMode.ofName (text? i "mode")
      .ok (prioritize mode (flag i "explicit" false) position members, claims)

/-! ## The whole request -/

/-- What has been made of a place in a request: the steps that a decorator turned into,
or an instance that may still stand for itself. -/
inductive Slot where
  | expanded (steps : List Step)
  | plain (inst : Instance) (position : Nat)
deriving DecidableEq

/-- Expands the places of `rest`, which starts at `position` in the request. -/
def expandFrom (registry : Registry) (request : Request) :
    Nat → Claims → List Instance → Except PlanError (List Slot × Claims)
  | _, claims, [] => .ok ([], claims)
  | position, claims, i :: rest =>
    match Meta.ofName? i.name with
    | none =>
      match expandFrom registry request (position + 1) claims rest with
      | .error e => .error e
      | .ok (slots, claims) => .ok (.plain i position :: slots, claims)
    | some kind =>
      match expandMeta registry request kind i position (position :: claims) with
      | .error e => .error e
      | .ok (steps, claims) =>
        match expandFrom registry request (position + 1) claims rest with
        | .error e => .error e
        | .ok (slots, claims) => .ok (.expanded steps :: slots, claims)

/-- The steps of a place, once all claims are made. -/
def Slot.steps (claims : Claims) : Slot → List Step
  | expanded steps => steps
  | plain i position =>
    if position ∈ claims then [] else [stepOf ⟨i, .request position⟩ none]

/-- The steps of a request, in order. -/
def expand (registry : Registry) (request : Request) : Except PlanError (List Step) :=
  match expandFrom registry request 0 [] request with
  | .error e => .error e
  | .ok (slots, claims) => .ok (slots.flatMap (Slot.steps claims))

end Expansion

end Decorate
