import Decorate.Definition.Basic

/-!
# Instances

A definition together with the values bound to its parameters.

`Instance.render` is the text that the decorator adds to a prompt. The
parameters are taken in declared order. The fragment of a parameter
fills the place that the instruction keeps for it; where the
instruction keeps none, the fragment follows in a paragraph of its own,
or, for an overriding decorator, stands instead of the instruction.
Blank pieces leave no trace.
-/

namespace Decorate

structure Instance where
  definition : Definition
  bindings : Bindings
deriving DecidableEq

namespace Instance

/-! ## Binding -/

/-- Binds the parameters of a definition to what was supplied for them. -/
def bind (d : Definition) (raw : Json.Members) : Except ParameterErrors Instance :=
  (bindAll d.name.text d.parameters raw).map fun bindings => ⟨d, bindings⟩

/-- Binds a definition with nothing supplied. -/
def withDefaults (d : Definition) : Except ParameterErrors Instance := bind d []

def name (i : Instance) : String := i.definition.name.text

def placement (i : Instance) : Placement := i.definition.placement

def behavior (i : Instance) : Behavior := i.definition.behavior

def get? (i : Instance) (parameter : String) : Option Value := i.bindings.get? parameter

/-- The bound parameters in declared order. -/
def bound (i : Instance) : List (String × Value) :=
  i.definition.parameters.filterMap fun s => (i.get? s.name).map fun v => (s.name, v)

/-- The same parameters bound to equal values, numbers being compared by value. -/
def sameBindings (b c : Bindings) : Bool :=
  b.keys == c.keys && Value.sameItems (b.toList.map Prod.snd) (c.toList.map Prod.snd)

/-- Equal definitions with equal values. An instance whose definition has the NaN for a bound
is not even equal to itself. -/
def same (i j : Instance) : Bool :=
  i.definition.same j.definition && sameBindings i.bindings j.bindings

/-! ## Rendering -/

/-- The place that an instruction keeps for a parameter. -/
def placeholder (parameter : String) : List Char := '\x7b' :: (parameter.toList ++ ['\x7d'])

/-- The fragment of a parameter; empty if it is not bound or not mapped. -/
def fragment (i : Instance) (parameter : String) : String :=
  match i.get? parameter, i.definition.template.mapping.get? parameter with
  | some value, some mapping => mapping.render value
  | _, _ => ""

/-- Fills the places of the parameters one after the other. The fragments that found no
place come back beside the text. -/
def fill (i : Instance) : List Schema → List Char → List Char × List String
  | [], text => (text, [])
  | s :: rest, text =>
    let fragment := i.fragment s.name
    if Text.occurs (placeholder s.name) text then
      fill i rest (Text.replaceAll (placeholder s.name) fragment.toList text)
    else
      let (text, fragments) := fill i rest text
      (text, if Text.isBlank fragment then fragments else fragment :: fragments)

/-- The blank line between paragraphs. -/
def paragraphBreak : String := "\n\n"

def render (i : Instance) : String :=
  let (text, fragments) := i.fill i.definition.parameters i.definition.template.instruction.toList
  let base :=
    if i.behavior = .override ∧ fragments ≠ [] then "" else String.ofList text
  Text.join paragraphBreak ((base :: fragments).filter fun s => !Text.isBlank s)

/-! ## Canonical document -/

/-- The bound parameters as a document. -/
def parametersJson (i : Instance) : Json.Members :=
  i.bound.map fun (name, value) => (name, value.toJson)

def toJson (i : Instance) : Json :=
  .obj
    [("name", .str i.name), ("version", .str i.definition.version.text),
     ("parameters", .obj i.parametersJson)]

end Instance

end Decorate
