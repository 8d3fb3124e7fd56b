import Decorate.Json.Basic
import Decorate.Number.Double
import Decorate.Pattern.Reader

/-!
# Parameter schemas

A parameter is declared with a name, a shape and possibly a default.
The shape says of what kind a value must be and which limits it must
keep; a shape for lists may hold the shape of their items, to any
depth. Limits that do not concern the kind have no effect.

Schemas are compared by `Schema.same`, which compares the numbers in them
by value. A bound may be the NaN, and then the schema that holds it is not
even the same as itself.

Not every shape makes sense. `Shape.defect?` finds the first thing that
is wrong with one: an enumeration without values, bounds in the wrong
order, a pattern that does not compile, items of something that is no
list.
-/

namespace Decorate

/-! ## Shapes -/

inductive Kind where
  | text
  | number
  | boolean
  | enum
  | list
deriving DecidableEq, Repr

namespace Kind

/-- The name of a kind in definitions and messages. -/
def name : Kind → String
  | text => "string"
  | number => "number"
  | boolean => "boolean"
  | enum => "enum"
  | list => "array"

def ofName? : String → Option Kind
  | "string" => some text
  | "number" => some number
  | "boolean" => some boolean
  | "enum" => some enum
  | "array" => some list
  | _ => none

@[simp] theorem ofName?_name (k : Kind) : ofName? k.name = some k := by cases k <;> rfl

end Kind

/-- Inclusive bounds, either of which may be missing. -/
structure Bounds (α : Type) where
  min : Option α := none
  max : Option α := none
deriving DecidableEq

namespace Bounds

def unbounded {α : Type} : Bounds α := {}

/-- The bounds as a message gives them. -/
def describe {α : Type} (label : α → String) (b : Bounds α) : String :=
  match b.min, b.max with
  | some min, some max => "[" ++ label min ++ ", " ++ label max ++ "]"
  | some min, none => ">= " ++ label min
  | none, some max => "<= " ++ label max
  | none, none => "any"

end Bounds

/-- Equality of values that may be missing, given the equality of values. -/
def sameOption {α : Type} (same : α → α → Bool) : Option α → Option α → Bool
  | some x, some y => same x y
  | none, none => true
  | _, _ => false

def showCount (n : Nat) : String := String.ofList (Nat.toDigits 10 n)

def showWord (n : UInt64) : String := showCount n.toNat

structure Limits where
  /-- The values of an enumeration, in declared order. -/
  allowed : List String := []
  /-- Bounds on a number, which need not be finite ones. -/
  range : Bounds Double := .unbounded
  /-- Bounds on the characters of a text or the items of a list. -/
  length : Bounds UInt64 := .unbounded
  pattern : Option String := none
deriving DecidableEq

namespace Limits

/-- The bounds on numbers. -/
def bounds (l : Limits) : List Double := l.range.min.toList ++ l.range.max.toList

/-- Equality in which bounds on numbers are compared as numbers. -/
def same (l m : Limits) : Bool :=
  l.allowed == m.allowed && sameOption Double.same l.range.min m.range.min
    && sameOption Double.same l.range.max m.range.max && l.length == m.length
    && l.pattern == m.pattern

end Limits

inductive Shape where
  | simple (kind : Kind) (limits : Limits)
  | withItems (kind : Kind) (limits : Limits) (items : Shape)
deriving DecidableEq

namespace Shape

def kind : Shape → Kind
  | simple kind _ => kind
  | withItems kind _ _ => kind

def limits : Shape → Limits
  | simple _ limits => limits
  | withItems _ limits _ => limits

def items? : Shape → Option Shape
  | simple _ _ => none
  | withItems _ _ items => some items

def ofParts (kind : Kind) (limits : Limits) : Option Shape → Shape
  | none => simple kind limits
  | some items => withItems kind limits items

@[simp] theorem ofParts_parts (s : Shape) : ofParts s.kind s.limits s.items? = s := by
  cases s <;> rfl

/-- The bounds on numbers, those on items among them. -/
def bounds : Shape → List Double
  | simple _ limits => limits.bounds
  | withItems _ limits items => limits.bounds ++ items.bounds

def same : Shape → Shape → Bool
  | simple k l, simple k' l' => k == k' && l.same l'
  | withItems k l s, withItems k' l' s' => k == k' && l.same l' && s.same s'
  | _, _ => false

end Shape

/-! ## Defects -/

/-- What can be wrong with a shape. -/
inductive Defect where
  | noValues
  | range (min max : Double)
  | length (min max : UInt64)
  | pattern (text : String)
  | strayItems
deriving DecidableEq

/-- The words of a message for a pattern that does not compile. Why it does not is left
to the reader. -/
def badPatternMessage (pattern : String) : String :=
  "pattern `" ++ pattern ++ "` does not compile: <regex error>"

def Defect.message : Defect → String
  | noValues => "enum parameter must declare at least one value"
  | range min max => "min " ++ min.plain ++ " exceeds max " ++ max.plain
  | length min max => "minLength " ++ showWord min ++ " exceeds maxLength " ++ showWord max
  | pattern text => badPatternMessage text
  | strayItems => "only array parameters may declare items"

namespace Limits

def rangeDefect? (l : Limits) : Option Defect :=
  match l.range with
  | ⟨some min, some max⟩ => if max.lt min then some (.range min max) else none
  | _ => none

def lengthDefect? (l : Limits) : Option Defect :=
  match l.length with
  | ⟨some min, some max⟩ => if max < min then some (.length min max) else none
  | _ => none

def patternDefect? (l : Limits) : Option Defect :=
  l.pattern.bind fun text => if (Pattern.ofString? text).isNone then some (.pattern text) else none

/-- The first defect in the limits of a shape of the given kind. -/
def defect? (kind : Kind) (l : Limits) : Option Defect :=
  if kind = .enum ∧ l.allowed = [] then some .noValues
  else l.rangeDefect? <|> l.lengthDefect? <|> l.patternDefect?

end Limits

/-- The first defect of a shape: in its own limits, then in that it has items at all,
then in their shape. -/
def Shape.defect? : Shape → Option Defect
  | simple kind limits => limits.defect? kind
  | withItems kind limits items =>
    limits.defect? kind
      <|> (if kind ≠ .list then some .strayItems else none)
      <|> items.defect?

/-! ## Schemas -/

/-- The declaration of a parameter. -/
structure Schema where
  name : String
  shape : Shape
  description : Option String := none
  /-- The default as it was written, not yet checked. -/
  default : Option Json := none
  required : Bool := false
deriving DecidableEq

namespace Schema

def kind (s : Schema) : Kind := s.shape.kind

def allowed (s : Schema) : List String := s.shape.limits.allowed

def same (s t : Schema) : Bool :=
  s.name == t.name && s.shape.same t.shape && s.description == t.description
    && sameOption Json.same s.default t.default && s.required == t.required

end Schema

end Decorate
