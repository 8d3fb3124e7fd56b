import Decorate.Number.Binary64

/-!
# Documents

The JSON values that definitions, configurations and parameters are
written in. An object is the list of its members in written order. A
document as read may repeat a member; `Json.distinct` keeps the last
value of each in the place of the first.

A number is `whole` when it is written as an integer that fits 64 bits,
signed or unsigned, and `real` otherwise. The two kinds never compare
equal, and each prints in its own way.
-/

namespace Decorate

namespace Json

/-- The integers that 64 bits can hold, with a sign or without. -/
def FitsWord (i : Int) : Prop := -(2 ^ (63 : Nat)) ≤ i ∧ i < 2 ^ (64 : Nat)

instance (i : Int) : Decidable (FitsWord i) := inferInstanceAs (Decidable (_ ∧ _))

inductive Number where
  | whole (value : Int) (fits : FitsWord value)
  | real (value : Binary64)
deriving DecidableEq

namespace Number

def ofInt? (i : Int) : Option Number := if h : FitsWord i then some (.whole i h) else none

/-- The nearest binary64 number. An integer of 64 bits always has one. -/
def toBinary64 : Number → Binary64
  | whole i _ => (Binary64.ofInt? i).getD .zero
  | real x => x

/-- Equality in which the two zeros agree. -/
def same : Number → Number → Bool
  | whole i _, whole j _ => i == j
  | real x, real y => x.same y
  | _, _ => false

theorem same_self (n : Number) : n.same n = true := by
  cases n <;> simp [same, Binary64.same_self]

end Number

end Json

inductive Json where
  | null
  | bool (value : Bool)
  | num (value : Json.Number)
  | str (value : String)
  | arr (items : List Json)
  | obj (members : List (String × Json))

namespace Json

instance : Inhabited Json := ⟨null⟩

/-! ## Equality -/

mutual
def decEq : (a b : Json) → Decidable (a = b)
  | null, null => isTrue rfl
  | bool x, bool y =>
    if h : x = y then isTrue (h ▸ rfl) else isFalse fun e => h (by injection e)
  | num x, num y =>
    if h : x = y then isTrue (h ▸ rfl) else isFalse fun e => h (by injection e)
  | str x, str y =>
    if h : x = y then isTrue (h ▸ rfl) else isFalse fun e => h (by injection e)
  | arr xs, arr ys =>
    match decEqItems xs ys with
    | isTrue h => isTrue (h ▸ rfl)
    | isFalse h => isFalse fun e => h (by injection e)
  | obj xs, obj ys =>
    match decEqMembers xs ys with
    | isTrue h => isTrue (h ▸ rfl)
    | isFalse h => isFalse fun e => h (by injection e)
  | null, bool _ | null, num _ | null, str _ | null, arr _ | null, obj _
  | bool _, null | bool _, num _ | bool _, str _ | bool _, arr _ | bool _, obj _
  | num _, null | num _, bool _ | num _, str _ | num _, arr _ | num _, obj _
  | str _, null | str _, bool _ | str _, num _ | str _, arr _ | str _, obj _
  | arr _, null | arr _, bool _ | arr _, num _ | arr _, str _ | arr _, obj _
  | obj _, null | obj _, bool _ | obj _, num _ | obj _, str _ | obj _, arr _ =>
    isFalse nofun

def decEqItems : (a b : List Json) → Decidable (a = b)
  | [], [] => isTrue rfl
  | [], _ :: _ | _ :: _, [] => isFalse nofun
  | x :: xs, y :: ys =>
    match decEq x y, decEqItems xs ys with
    | isTrue h, isTrue hs => isTrue (h ▸ hs ▸ rfl)
    | isFalse h, _ => isFalse fun e => h (by injection e)
    | _, isFalse h => isFalse fun e => h (by injection e)

def decEqMembers : (a b : List (String × Json)) → Decidable (a = b)
  | [], [] => isTrue rfl
  | [], _ :: _ | _ :: _, [] => isFalse nofun
  | (k, x) :: xs, (l, y) :: ys =>
    if hk : k = l then
      match decEq x y, decEqMembers xs ys with
      | isTrue h, isTrue hs => isTrue (hk ▸ h ▸ hs ▸ rfl)
      | isFalse h, _ => isFalse fun e => h (by injection e with e _; injection e)
      | _, isFalse h => isFalse fun e => h (by injection e)
    else isFalse fun e => hk (by injection e with e _; injection e)
end

instance : DecidableEq Json := decEq

/-- An object's members, as name and value in written order. -/
abbrev Members := List (String × Json)

mutual
/-- Equality in which numbers are compared by value and the order of members does not
matter. -/
def same : Json → Json → Bool
  | null, null => true
  | bool a, bool b => a == b
  | num m, num n => m.same n
  | str s, str t => s == t
  | arr xs, arr ys => sameItems xs ys
  | obj ms, obj ns => ms.length == ns.length && sameMembers ms ns
  | _, _ => false

def sameItems : List Json → List Json → Bool
  | [], [] => true
  | x :: xs, y :: ys => same x y && sameItems xs ys
  | _, _ => false

/-- Each member of the first object is found in the second. -/
def sameMembers : Members → Members → Bool
  | [], _ => true
  | (key, value) :: rest, ns =>
    (match ns.lookup key with
      | some other => same value other
      | none => false)
      && sameMembers rest ns
end

/-! ## Members -/

/-- Puts `value` under `key`: in the place where the key stands already, or at the end. -/
def put (key : String) (value : Json) : Members → Members
  | [] => [(key, value)]
  | (k, v) :: rest => if k = key then (k, value) :: rest else (k, v) :: put key value rest

mutual
/-- Removes repeated members at every depth: the last value counts, in the place of the
first. -/
def distinct : Json → Json
  | arr items => arr (distinctItems items)
  | obj members => obj (distinctMembers members [])
  | other => other

def distinctItems : List Json → List Json
  | [] => []
  | item :: rest => distinct item :: distinctItems rest

def distinctMembers : Members → Members → Members
  | [], done => done
  | (key, value) :: rest, done => distinctMembers rest (put key (distinct value) done)
end

/-- The name of the kind of value, as messages give it. -/
def typeName : Json → String
  | null => "null"
  | bool _ => "boolean"
  | num _ => "number"
  | str _ => "string"
  | arr _ => "array"
  | obj _ => "object"

def isNull : Json → Bool
  | null => true
  | _ => false

end Json

end Decorate
