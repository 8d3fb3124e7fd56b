import Decorate.Json.Fields
import Decorate.Json.Reader
import Decorate.Json.Writer
import Decorate.Version.Reader

/-!
# Configuration

What a request is checked against when it does not say itself: the
standard version, the model that the prompt is meant for, and whether a
decorator that does not list that model is refused.

A configuration is written as a record in which every field may be left
out and no other may stand.
-/

namespace Decorate

structure Config where
  standard : Version := .one
  model : Option String := none
  strict : Bool := false
deriving DecidableEq

/-- Why a text is no configuration. -/
inductive ConfigError where
  | notJson
  | wrongShape
deriving DecidableEq, Repr

namespace Config

def fields : List String := ["standardVersion", "targetModel", "strictModels"]

/-- A version that is written without blanks around it. -/
def exactVersion? (j : Json) : Option Version :=
  j.asText?.bind fun text => (Version.ofExactString text).toOption

def ofJson? (j : Json) : Option Config := do
  let ms ← j.record? fields
  if !ms.all fun (name, _) => fields.contains name then none
  let standard ← Json.defaulted? ms "standardVersion" Version.one exactVersion?
  let model ← Json.optional? ms "targetModel" Json.asText?
  let strict ← Json.defaulted? ms "strictModels" false Json.asBool?
  return { standard, model, strict }

def ofText (text : String) : Except ConfigError Config :=
  match Json.read? text with
  | none => .error .notJson
  | some j =>
    match ofJson? j with
    | some config => .ok config
    | none => .error .wrongShape

def toJson (c : Config) : Json :=
  .obj <|
    [("standardVersion", .str c.standard.text)]
      ++ (c.model.toList.map fun model => ("targetModel", .str model))
      ++ [("strictModels", .bool c.strict)]

end Config

end Decorate
