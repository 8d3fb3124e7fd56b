import Decorate.Json.Basic
import Decorate.Number.Double

/-!
# Records in documents

How a document is taken for a record with named fields. Nothing is the
answer for every document of the wrong shape; which part of it is wrong
does not matter here.

A record is written as an object, whose unknown members are ignored but
whose known ones may occur once only, or, for some records, as the list
of its fields in declared order (`record?`). A field is required,
optional or defaulted; the difference shows where it is absent, and for
null, which only an optional field accepts.
-/

namespace Decorate

namespace Json

/-! ## Plain values -/

def asText? : Json → Option String
  | str s => some s
  | _ => none

def asBool? : Json → Option Bool
  | bool b => some b
  | _ => none

/-- Numbers in documents are finite. -/
def asDouble? : Json → Option Double
  | num n => some (.finite n.toBinary64)
  | _ => none

/-- A count is written as an integer, without fraction or exponent. -/
def asCount? : Json → Option UInt64
  | num (.whole (.ofNat n) _) => some (.ofNat n)
  | _ => none

def asItems? : Json → Option (List Json)
  | arr items => some items
  | _ => none

def asMembers? : Json → Option Members
  | obj members => some members
  | _ => none

/-- Applies a reading to every element; one failure fails the whole. -/
def readAll {α β : Type} (read : α → Option β) : List α → Option (List β)
  | [] => some []
  | x :: rest =>
    match read x, readAll read rest with
    | some y, some ys => some (y :: ys)
    | _, _ => none

def asListOf? {β : Type} (read : Json → Option β) (j : Json) : Option (List β) :=
  j.asItems?.bind (readAll read)

def asTexts? : Json → Option (List String) := asListOf? asText?

/-- One of a set of names: as a string, or as the only member of an object whose value
says nothing more. -/
def asName? {β : Type} (ofName? : String → Option β) : Json → Option β
  | str name => ofName? name
  | obj [(name, null)] => ofName? name
  | _ => none

/-! ## Fields -/

/-- The members of an object in which none of the given fields is repeated. -/
def object? (fields : List String) : Json → Option Members
  | obj members =>
    if fields.all fun f => members.countP (fun m => m.1 == f) ≤ 1 then some members else none
  | _ => none

/-- The same, or a list of values for the first of the fields. -/
def record? (fields : List String) : Json → Option Members
  | arr items => if items.length ≤ fields.length then some (fields.zip items) else none
  | j => j.object? fields

def required? {β : Type} (members : Members) (field : String) (read : Json → Option β) :
    Option β :=
  (members.lookup field).bind read

/-- A field that may be absent or null. -/
def optional? {β : Type} (members : Members) (field : String) (read : Json → Option β) :
    Option (Option β) :=
  match members.lookup field with
  | none | some null => some none
  | some j => (read j).map some

/-- A field that may be absent, but not null. -/
def defaulted? {β : Type} (members : Members) (field : String) (default : β)
    (read : Json → Option β) : Option β :=
  match members.lookup field with
  | none => some default
  | some j => read j

end Json

end Decorate
