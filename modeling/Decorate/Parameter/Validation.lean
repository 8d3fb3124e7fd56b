import Decorate.Parameter.Violation
import Decorate.Sorted

/-!
# Validation

Whether a document conforms to a shape, and what value it then stands
for (`Shape.check`); and the same for the parameters of a decorator
taken together (`bindAll`), where absent parameters take their defaults
and null counts as absent.

`bindAll` does not stop at the first problem. It reports one error for
each declared parameter that fails, in declared order, and then one for
each name that is not declared, in the order in which they were given.
-/

namespace Decorate

/-! ## Single values -/

namespace Bounds

/-- Holds of a count within the bounds. -/
def admits (b : Bounds UInt64) (n : Nat) : Bool :=
  b.min.all (fun min => min.toNat ≤ n) && b.max.all (fun max => n ≤ max.toNat)

/-- Holds of a number that is neither below the lower nor above the upper bound. -/
def admitsNumber (b : Bounds Double) (x : Binary64) : Bool :=
  b.min.all (fun min => !(Double.finite x).lt min) && b.max.all fun max => !max.lt (.finite x)

end Bounds

/-- Checks the items of a list one after the other and stops at the first violation. -/
def checkItems (item : Json → Except Violation Value) (index : Nat) :
    List Json → Except Violation (List Value)
  | [] => .ok []
  | value :: rest =>
    match item value with
    | .error v => .error (.item index v)
    | .ok bound =>
      match checkItems item (index + 1) rest with
      | .error v => .error v
      | .ok bounds => .ok (bound :: bounds)

/-- An item of a list that declares no shape for its items. -/
def checkUntyped (value : Json) : Except Violation Value :=
  match Value.ofJson? value with
  | some bound => .ok bound
  | none => .error (.wrongKind .text value.typeName)

def checkText (limits : Limits) (s : String) : Except Violation Value :=
  if !limits.length.admits s.toList.length then
    .error (.textLength s.toList.length limits.length)
  else
    match limits.pattern with
    | none => .ok (.text s)
    | some text =>
      match Pattern.ofString? text with
      | none => .error (.badPattern text)
      | some pattern => if pattern.isMatch s then .ok (.text s) else .error (.noMatch s text)

/-- Checks a value against a kind and its limits, given the check for items. -/
def checkKind (kind : Kind) (limits : Limits) (item : Json → Except Violation Value)
    (value : Json) : Except Violation Value :=
  match kind, value with
  | .boolean, .bool b => .ok (.bool b)
  | .number, .num n =>
    if limits.range.admitsNumber n.toBinary64 then .ok (.number n.toBinary64)
    else .error (.outOfRange n.toBinary64 limits.range)
  | .enum, .str s =>
    if limits.allowed.contains s then .ok (.text s) else .error (.notAllowed s limits.allowed)
  | .text, .str s => checkText limits s
  | .list, .arr items =>
    if limits.length.admits items.length then (checkItems item 0 items).map .list
    else .error (.listLength items.length limits.length)
  | kind, value => .error (.wrongKind kind value.typeName)

/-- The value that a document stands for, or the first violation. -/
def Shape.check : Shape → Json → Except Violation Value
  | simple kind limits, value => checkKind kind limits checkUntyped value
  | withItems kind limits items, value => checkKind kind limits items.check value

/-! ## Schemas -/

namespace Schema

def validate (s : Schema) (decorator : String) (value : Json) : Except ParameterError Value :=
  match s.shape.check value with
  | .ok bound => .ok bound
  | .error v => .error ⟨decorator, s.name, .violation v⟩

/-- The value of the default, if one is declared. -/
def defaultValue (s : Schema) (decorator : String) : Except ParameterError (Option Value) :=
  match s.default with
  | none => .ok none
  | some value => (s.validate decorator value).map some

/-- Refuses a schema whose shape has a defect or whose default does not conform. -/
def checkConsistent (s : Schema) (decorator : String) : Except ParameterError Unit :=
  match s.shape.defect? with
  | some d => .error ⟨decorator, s.name, .defect d⟩
  | none => (s.defaultValue decorator).map fun _ => ()

/-- What a parameter is bound to, given what was supplied for it: nothing where an
optional parameter has neither a value nor a default. -/
def settle (s : Schema) (decorator : String) (supplied : Option Json) :
    Except ParameterError (Option Value) :=
  match supplied with
  | some value => (s.validate decorator value).map some
  | none =>
    match s.defaultValue decorator with
    | .ok none => if s.required then .error ⟨decorator, s.name, .missing⟩ else .ok none
    | outcome => outcome

end Schema

/-! ## All parameters of a decorator -/

/-- Values bound to parameters, filed under the parameter's name. -/
abbrev Bindings := Table Value

/-- What was supplied for a parameter; null counts as nothing. -/
def supplied? (raw : Json.Members) (name : String) : Option Json :=
  (raw.lookup name).filter (!·.isNull)

/-- The errors of the declared parameters, in declared order. -/
def declaredErrors (decorator : String) (schemas : List Schema) (raw : Json.Members) :
    List ParameterError :=
  schemas.filterMap fun s =>
    match s.settle decorator (supplied? raw s.name) with
    | .ok _ => none
    | .error e => some e

/-- The values of the declared parameters that have one. -/
def declaredValues (decorator : String) (schemas : List Schema) (raw : Json.Members) :
    List (String × Value) :=
  schemas.filterMap fun s =>
    match s.settle decorator (supplied? raw s.name) with
    | .ok (some value) => some (s.name, value)
    | _ => none

/-- The names that no schema declares, in given order. -/
def undeclared (schemas : List Schema) (raw : Json.Members) : List String :=
  (raw.map Prod.fst).filter fun name => !schemas.any (·.name == name)

/-- Binds the parameters of a decorator, or reports all the problems with them. -/
def bindAll (decorator : String) (schemas : List Schema) (raw : Json.Members) :
    Except ParameterErrors Bindings :=
  let errors := declaredErrors decorator schemas raw
    ++ (undeclared schemas raw).map fun name => ⟨decorator, name, .unknown⟩
  if h : errors = [] then .ok (.ofList (declaredValues decorator schemas raw))
  else .error ⟨decorator, errors, h⟩

end Decorate
