import Decorate.Instance.Basic

/-!
# Steps

Four decorators arrange others instead of adding text: `Version`
chooses the standard version, `Chain`, `Priority` and `Conditional`
schedule the decorators that they name. A step is one decorator that is
to be rendered once they have been dealt with. It knows which of them
scheduled it, and where its instance comes from.
-/

namespace Decorate

/-! ## Decorators that arrange others -/

inductive Meta where
  | version
  | chain
  | priority
  | conditional
deriving DecidableEq, Repr

namespace Meta

def name : Meta → String
  | version => "Version"
  | chain => "Chain"
  | priority => "Priority"
  | conditional => "Conditional"

def ofName? (name : String) : Option Meta :=
  if name = "Version" then some version
  else if name = "Chain" then some chain
  else if name = "Priority" then some priority
  else if name = "Conditional" then some conditional
  else none

@[simp] theorem ofName?_name (m : Meta) : ofName? m.name = some m := by cases m <;> decide

theorem name_of_ofName? {name : String} {m : Meta} (h : ofName? name = some m) :
    name = m.name := by
  unfold ofName? at h
  repeat' split at h
  all_goals cases h
  all_goals assumption

end Meta

/-- How the members of a `Priority` get along. -/
inductive PriorityMode where
  /-- In each place only the member of highest priority stays. -/
  | override
  /-- All members stay. -/
  | merge
  /-- All members stay, and the lower ones can be marked as such. -/
  | cascade
deriving DecidableEq, Repr

def PriorityMode.ofName (name : Option String) : PriorityMode :=
  if name = some "merge" then merge else if name = some "cascade" then cascade else override

/-! ## Steps -/

/-- Where the instance of a step comes from. -/
inductive Origin where
  /-- The place in the request. -/
  | request (position : Nat)
  | registry
deriving DecidableEq, Repr

structure Step where
  inst : Instance
  origin : Origin
  behavior : Behavior
  /-- The decorator that scheduled the step, unless the request did. -/
  introducedBy : Option String := none
  /-- The place of the `Priority` that ordered the step. -/
  priorityGroup : Option Nat := none
  /-- The member of higher priority that the text is to name. -/
  subordinateTo : Option String := none
deriving DecidableEq

namespace Step

def name (s : Step) : String := s.inst.name

def definition (s : Step) : Definition := s.inst.definition

def placement (s : Step) : Placement := s.inst.placement

/-- Holds of steps whose precedence the same `Priority` settled. -/
def sharesPriority (s t : Step) : Bool :=
  s.priorityGroup.isSome && s.priorityGroup == t.priorityGroup

/-- The text of the step, marked if it is subordinate. -/
def render (s : Step) : String :=
  let text := s.inst.render
  match s.subordinateTo with
  | some higher =>
    if Text.isBlank text then text else "(Lower priority than " ++ higher ++ ") " ++ text
  | none => text

end Step

end Decorate
