import Decorate.Json.Fields
import Decorate.Parameter.Schema

/-!
# Schemas in documents

The written form of a parameter schema: an object with its name, type,
description, default and whether it is required, and beside these the
limits that it declares. The schema of list items is an object with a
type and limits. Fields that declare nothing are left out in writing.
-/

namespace Decorate

/-! ## Writing -/

namespace Json

/-- A member for a value that is there, nothing otherwise. -/
def member? {α : Type} (field : String) (write : α → Json) (value : Option α) : Members :=
  match value with
  | some x => [(field, write x)]
  | none => []

/-- A member for a list that is not empty. -/
def memberList {α : Type} (field : String) (write : α → Json) (values : List α) : Members :=
  if values.isEmpty then [] else [(field, arr (values.map write))]

theorem fitsWord_toNat (n : UInt64) : FitsWord n.toNat := by
  have := n.toNat_lt
  constructor <;> omega

def ofCount (n : UInt64) : Json := num (.whole n.toNat (fitsWord_toNat n))

@[simp] theorem asCount?_ofCount (n : UInt64) : (ofCount n).asCount? = some n := by
  simp [ofCount, asCount?]

/-- Documents have no words for the numbers that are not finite; they become null. -/
def ofDouble : Double → Json
  | .finite x => num (.real x)
  | .infinite _ | .nan => null

theorem asDouble?_ofDouble {x : Double} (h : x.isFinite = true) :
    (ofDouble x).asDouble? = some x := by
  cases x with
  | finite x => rfl
  | infinite negative => cases h
  | nan => cases h

theorem ofDouble_ne_null {x : Double} (h : x.isFinite = true) : ofDouble x ≠ null := by
  intro hnull
  have hread := asDouble?_ofDouble h
  rw [hnull] at hread
  cases hread

end Json

def Limits.toMembers (l : Limits) : Json.Members :=
  Json.memberList "enum" .str l.allowed
    ++ Json.member? "min" Json.ofDouble l.range.min
    ++ Json.member? "max" Json.ofDouble l.range.max
    ++ Json.member? "minLength" Json.ofCount l.length.min
    ++ Json.member? "maxLength" Json.ofCount l.length.max
    ++ Json.member? "pattern" .str l.pattern

/-- The limits of a shape, its items among them. -/
def Shape.toMembers : Shape → Json.Members
  | simple _ limits => limits.toMembers
  | withItems _ limits items =>
    limits.toMembers ++ [("items", .obj (("type", .str items.kind.name) :: items.toMembers))]

def Schema.toJson (s : Schema) : Json :=
  .obj <|
    [("name", .str s.name), ("type", .str s.kind.name)]
      ++ Json.member? "description" .str s.description
      ++ Json.member? "default" id s.default
      ++ [("required", .bool s.required)]
      ++ s.shape.toMembers

/-! ## Reading -/

/-- The fields of limits. -/
def Limits.fields : List String :=
  ["enum", "min", "max", "minLength", "maxLength", "pattern", "items"]

def Limits.ofMembers? (ms : Json.Members) : Option Limits := do
  let allowed ← Json.defaulted? ms "enum" [] Json.asTexts?
  let min ← Json.optional? ms "min" Json.asDouble?
  let max ← Json.optional? ms "max" Json.asDouble?
  let minLength ← Json.optional? ms "minLength" Json.asCount?
  let maxLength ← Json.optional? ms "maxLength" Json.asCount?
  let pattern ← Json.optional? ms "pattern" Json.asText?
  return { allowed, range := ⟨min, max⟩, length := ⟨minLength, maxLength⟩, pattern }

/-- The type of list items may carry an empty object where others carry null. -/
def Kind.ofItemJson? : Json → Option Kind
  | .obj [(name, .obj [])] => ofName? name
  | j => j.asName? ofName?


mutual
/-- The shape of list items from its document. -/
def Shape.ofJson? : Json → Option Shape
  | .obj ms =>
    match Json.object? ("type" :: Limits.fields) (.obj ms) with
    | none => none
    | some _ =>
      match Json.required? ms "type" Kind.ofItemJson?, Limits.ofMembers? ms, Shape.itemsOf? ms with
      | some kind, some limits, some items => some (.ofParts kind limits items)
      | _, _, _ => none
  | _ => none

/-- The shape under the first member `items`; null counts as absent. -/
def Shape.itemsOf? : List (String × Json) → Option (Option Shape)
  | [] => some none
  | (key, value) :: rest =>
    if key = "items" then
      match value with
      | .null => some none
      | value => (Shape.ofJson? value).map some
    else Shape.itemsOf? rest
end

def Schema.ofJson? (j : Json) : Option Schema := do
  let ms ← j.object? (["name", "type", "description", "default", "required"] ++ Limits.fields)
  let name ← Json.required? ms "name" Json.asText?
  let kind ← Json.required? ms "type" (Json.asName? Kind.ofName?)
  let description ← Json.optional? ms "description" Json.asText?
  let default ← Json.optional? ms "default" fun j => some j.distinct
  let required ← Json.defaulted? ms "required" false Json.asBool?
  let limits ← Limits.ofMembers? ms
  let items ← Shape.itemsOf? ms
  return { name, shape := .ofParts kind limits items, description, default, required }

end Decorate
