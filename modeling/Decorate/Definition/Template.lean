import Decorate.Json.Fields
import Decorate.Parameter.Value
import Decorate.Sorted

/-!
# Templates

How a decorator turns into text: an instruction, in which `{name}`
stands for the fragment of the parameter of that name; a mapping for
each parameter that has a fragment; where the text goes relative to the
prompt; and how several decorators in one place combine.
-/

namespace Decorate

/-! ## Places and behaviours -/

/-- Where the text of a decorator goes. The last two take the place of the whole
prompt. -/
inductive Placement where
  | prepend
  | append
  | override
  | replace
deriving DecidableEq, Repr

namespace Placement

def replacesPrompt : Placement → Bool
  | prepend | append => false
  | override | replace => true

def name : Placement → String
  | prepend => "prepend"
  | append => "append"
  | override => "override"
  | replace => "replace"

def ofName? : String → Option Placement
  | "prepend" => some prepend
  | "append" => some append
  | "override" => some override
  | "replace" => some replace
  | _ => none

@[simp] theorem ofName?_name (p : Placement) : ofName? p.name = some p := by cases p <;> rfl

end Placement

/-- How decorators in one place combine: a text takes the place of earlier overriding
ones, or comes after them. -/
inductive Behavior where
  | override
  | accumulate
deriving DecidableEq, Repr

namespace Behavior

def name : Behavior → String
  | override => "override"
  | accumulate => "accumulate"

def ofName? : String → Option Behavior
  | "override" => some override
  | "accumulate" => some accumulate
  | _ => none

@[simp] theorem ofName?_name (b : Behavior) : ofName? b.name = some b := by cases b <;> rfl

end Behavior

/-! ## Fragments -/

/-- How a value becomes a fragment: put into a format, or looked up. -/
inductive Mapping where
  | format (text : String)
  | lookup (fragments : Table String)
deriving DecidableEq

namespace Mapping

def valuePlaceholder : List Char := ['\x7b', 'v', 'a', 'l', 'u', 'e', '\x7d']

/-- The fragment for a value. A value that is not in the table has an empty one. -/
def render (m : Mapping) (value : Value) : String :=
  match m with
  | format text =>
    String.ofList (Text.replaceAll valuePlaceholder value.display.toList text.toList)
  | lookup fragments => (fragments.get? value.display).getD ""

def toJson : Mapping → Json
  | format text => .obj [("format", .str text)]
  | lookup fragments =>
    .obj [("valueMap", .obj (fragments.toList.map fun (key, text) => (key, .str text)))]

/-- A table of texts from an object. -/
def tableOfJson? (j : Json) : Option (Table String) :=
  (j.asMembers?.bind (Json.readAll fun (key, value) => value.asText?.map fun text => (key, text))).map
    Sorted.ofList

/-- A document is a format if it can be, and a table otherwise. -/
def ofJson? (j : Json) : Option Mapping :=
  let asFormat := (j.object? ["format"]).bind fun ms => Json.required? ms "format" Json.asText?
  match asFormat with
  | some text => some (format text)
  | none =>
    ((j.object? ["valueMap"]).bind fun ms => Json.required? ms "valueMap" tableOfJson?).map lookup

end Mapping

/-! ## Templates -/

structure Template where
  instruction : String := ""
  mapping : Table Mapping := .empty
  placement : Placement := .prepend
  behavior : Behavior := .accumulate
deriving DecidableEq

namespace Template

def fields : List String := ["instruction", "parameterMapping", "placement", "compositionBehavior"]

def toJson (t : Template) : Json :=
  .obj <|
    [("instruction", .str t.instruction)]
      ++ (if t.mapping.isEmpty then []
        else [("parameterMapping", .obj (t.mapping.toList.map fun (name, m) => (name, m.toJson)))])
      ++ [("placement", .str t.placement.name), ("compositionBehavior", .str t.behavior.name)]

def mappingOfJson? (j : Json) : Option (Table Mapping) :=
  (j.asMembers?.bind
    (Json.readAll fun (name, value) => (Mapping.ofJson? value).map fun m => (name, m))).map
    Sorted.ofList

def ofJson? (j : Json) : Option Template := do
  let ms ← j.record? fields
  let instruction ← Json.required? ms "instruction" Json.asText?
  let mapping ← Json.defaulted? ms "parameterMapping" .empty mappingOfJson?
  let placement ← Json.defaulted? ms "placement" .prepend (Json.asName? Placement.ofName?)
  let behavior ←
    Json.defaulted? ms "compositionBehavior" .accumulate (Json.asName? Behavior.ofName?)
  return { instruction, mapping, placement, behavior }

end Template

end Decorate
