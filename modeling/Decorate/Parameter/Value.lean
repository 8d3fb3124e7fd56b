import Decorate.Json.Number
import Decorate.Text.Search

/-!
# Parameter values

What a parameter can be bound to: a flag, a number, a text, or a list
of these to any depth. `Value.ofJson?` takes a document for a value,
refusing null and objects, and `Value.toJson` goes back.

`Value.display` is the form in which a value appears inside an
instruction. `Value.same` is equality up to the sign of zero.
-/

namespace Decorate

inductive Value where
  | bool (b : Bool)
  | number (x : Binary64)
  | text (s : String)
  | list (items : List Value)

namespace Value

instance : Inhabited Value := ⟨bool false⟩

/-! ## Documents -/

mutual
def ofJson? : Json → Option Value
  | .null => none
  | .bool b => some (bool b)
  | .num n => some (number n.toBinary64)
  | .str s => some (text s)
  | .arr items => (ofJsonItems? items).map list
  | .obj _ => none

def ofJsonItems? : List Json → Option (List Value)
  | [] => some []
  | item :: rest =>
    match ofJson? item, ofJsonItems? rest with
    | some value, some values => some (value :: values)
    | _, _ => none
end

mutual
def toJson : Value → Json
  | bool b => .bool b
  | number x => .num (.ofBinary64 x)
  | text s => .str s
  | list items => .arr (toJsonItems items)

def toJsonItems : List Value → List Json
  | [] => []
  | value :: rest => toJson value :: toJsonItems rest
end

/-! ## Equality -/

mutual
def decEq : (a b : Value) → Decidable (a = b)
  | bool x, bool y =>
    if h : x = y then isTrue (h ▸ rfl) else isFalse fun e => h (by injection e)
  | number x, number y =>
    if h : x = y then isTrue (h ▸ rfl) else isFalse fun e => h (by injection e)
  | text x, text y =>
    if h : x = y then isTrue (h ▸ rfl) else isFalse fun e => h (by injection e)
  | list xs, list ys =>
    match decEqItems xs ys with
    | isTrue h => isTrue (h ▸ rfl)
    | isFalse h => isFalse fun e => h (by injection e)
  | bool _, number _ | bool _, text _ | bool _, list _
  | number _, bool _ | number _, text _ | number _, list _
  | text _, bool _ | text _, number _ | text _, list _
  | list _, bool _ | list _, number _ | list _, text _ => isFalse nofun

def decEqItems : (a b : List Value) → Decidable (a = b)
  | [], [] => isTrue rfl
  | [], _ :: _ | _ :: _, [] => isFalse nofun
  | x :: xs, y :: ys =>
    match decEq x y, decEqItems xs ys with
    | isTrue h, isTrue hs => isTrue (h ▸ hs ▸ rfl)
    | isFalse h, _ => isFalse fun e => h (by injection e)
    | _, isFalse h => isFalse fun e => h (by injection e)
end

instance : DecidableEq Value := decEq

mutual
/-- Equality of values in which numbers are compared by value. -/
def same : Value → Value → Bool
  | bool a, bool b => a == b
  | number x, number y => x.same y
  | text s, text t => s == t
  | list xs, list ys => sameItems xs ys
  | _, _ => false

def sameItems : List Value → List Value → Bool
  | [], [] => true
  | x :: xs, y :: ys => same x y && sameItems xs ys
  | _, _ => false
end

mutual
theorem same_self : (v : Value) → v.same v = true
  | bool b => by simp [same]
  | number x => by simp [same, Binary64.same_self]
  | text s => by simp [same]
  | list items => by simp [same, sameItems_self items]

theorem sameItems_self : (items : List Value) → sameItems items items = true
  | [] => rfl
  | v :: rest => by simp [sameItems, same_self v, sameItems_self rest]
end

/-! ## Text -/

mutual
/-- Texts as they are, integral numbers without a fraction, items with commas between
them. -/
def display : Value → String
  | bool true => "true"
  | bool false => "false"
  | number x => x.plain
  | text s => s
  | list items => Text.join ", " (displayItems items)

def displayItems : List Value → List String
  | [] => []
  | value :: rest => display value :: displayItems rest
end

/-! ## Parts -/

def asText? : Value → Option String
  | text s => some s
  | _ => none

def asBool? : Value → Option Bool
  | bool b => some b
  | _ => none

def asNumber? : Value → Option Binary64
  | number x => some x
  | _ => none

def items? : Value → Option (List Value)
  | list items => some items
  | _ => none

/-- The texts among the items of a list; nothing for other values. -/
def textItems (v : Value) : List String := (v.items?.getD []).filterMap asText?

end Value


end Decorate
