import Decorate.Definition.Template
import Decorate.Parameter.Record

/-!
# Definition records

A definition as it is written, before anything in it has been checked:
names and versions are still texts, and parameters may be declared
twice. Records are read from documents and written to them; a builder
fills one in field by field.
-/

namespace Decorate

/-! ## Records -/

/-- How a decorator gets along with others, with standard versions and with models. -/
structure CompatibilityRecord where
  requires : List String := []
  conflicts : List String := []
  minStandard : Option String := none
  maxStandard : Option String := none
  models : List String := []
deriving DecidableEq, Repr

structure DefinitionRecord where
  name : String
  version : String
  category : String := "general"
  description : Option String := none
  parameters : List Schema := []
  template : Template := {}
  compatibility : CompatibilityRecord := {}
deriving DecidableEq

/-! ## Writing -/

def CompatibilityRecord.toJson (c : CompatibilityRecord) : Json :=
  .obj <|
    Json.memberList "requires" .str c.requires
      ++ Json.memberList "conflicts" .str c.conflicts
      ++ Json.member? "minStandardVersion" .str c.minStandard
      ++ Json.member? "maxStandardVersion" .str c.maxStandard
      ++ Json.memberList "models" .str c.models

def DefinitionRecord.toJson (r : DefinitionRecord) : Json :=
  .obj <|
    [("decoratorName", .str r.name), ("version", .str r.version), ("category", .str r.category)]
      ++ Json.member? "description" .str r.description
      ++ [("parameters", .arr (r.parameters.map Schema.toJson)),
          ("transformationTemplate", r.template.toJson),
          ("compatibility", r.compatibility.toJson)]

/-! ## Reading -/

def CompatibilityRecord.fields : List String :=
  ["requires", "conflicts", "minStandardVersion", "maxStandardVersion", "models"]

def CompatibilityRecord.ofJson? (j : Json) : Option CompatibilityRecord := do
  let ms ← j.record? fields
  let requires ← Json.defaulted? ms "requires" [] Json.asTexts?
  let conflicts ← Json.defaulted? ms "conflicts" [] Json.asTexts?
  let minStandard ← Json.optional? ms "minStandardVersion" Json.asText?
  let maxStandard ← Json.optional? ms "maxStandardVersion" Json.asText?
  let models ← Json.defaulted? ms "models" [] Json.asTexts?
  return { requires, conflicts, minStandard, maxStandard, models }

def DefinitionRecord.fields : List String :=
  ["decoratorName", "version", "category", "description", "parameters", "transformationTemplate",
   "compatibility"]

def DefinitionRecord.ofJson? (j : Json) : Option DefinitionRecord := do
  let ms ← j.record? fields
  let name ← Json.required? ms "decoratorName" Json.asText?
  let version ← Json.required? ms "version" Json.asText?
  let category ← Json.defaulted? ms "category" "general" Json.asText?
  let description ← Json.optional? ms "description" Json.asText?
  let parameters ← Json.defaulted? ms "parameters" [] (Json.asListOf? Schema.ofJson?)
  let template ← Json.required? ms "transformationTemplate" Template.ofJson?
  let compatibility ← Json.defaulted? ms "compatibility" {} CompatibilityRecord.ofJson?
  return { name, version, category, description, parameters, template, compatibility }

/-! ## Building -/

namespace DefinitionRecord

/-- Appends a parameter. -/
def declare (r : DefinitionRecord) (s : Schema) : DefinitionRecord :=
  { r with parameters := r.parameters ++ [s] }

def withInstruction (r : DefinitionRecord) (text : String) : DefinitionRecord :=
  { r with template := { r.template with instruction := text } }

def withMapping (r : DefinitionRecord) (parameter : String) (m : Mapping) : DefinitionRecord :=
  { r with template := { r.template with mapping := r.template.mapping.set parameter m } }

def withPlacement (r : DefinitionRecord) (p : Placement) : DefinitionRecord :=
  { r with template := { r.template with placement := p } }

def withBehavior (r : DefinitionRecord) (b : Behavior) : DefinitionRecord :=
  { r with template := { r.template with behavior := b } }

def require (r : DefinitionRecord) (name : String) : DefinitionRecord :=
  { r with compatibility :=
      { r.compatibility with requires := r.compatibility.requires ++ [name] } }

def conflict (r : DefinitionRecord) (name : String) : DefinitionRecord :=
  { r with compatibility :=
      { r.compatibility with conflicts := r.compatibility.conflicts ++ [name] } }

def withStandards (r : DefinitionRecord) (min max : Option String) : DefinitionRecord :=
  { r with compatibility := { r.compatibility with minStandard := min, maxStandard := max } }

def supportModel (r : DefinitionRecord) (model : String) : DefinitionRecord :=
  { r with compatibility :=
      { r.compatibility with models := r.compatibility.models ++ [model] } }

end DefinitionRecord

end Decorate
