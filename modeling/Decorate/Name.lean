/-!
# Decorator names

A name is an ASCII identifier of at most 64 bytes that starts with a
letter. `Name.ofString` is the only way to make one, so a `Name` never
has to be checked again; the four ways in which a text can fail are
`Name.Fault`, in the order in which they are looked for.
-/

namespace Decorate

/-- The most bytes that a name may have. -/
def Name.maxLength : Nat := 64

inductive Name.Fault where
  | empty
  | tooLong
  | badStart
  | badCharacter
deriving DecidableEq, Repr

namespace Name

def isNameChar (c : Char) : Bool := c.isAlphanum || c == '_'

/-- The first reason why a text is no name. -/
def fault? (text : String) : Option Fault :=
  if text = "" then some .empty
  else if text.utf8ByteSize > maxLength then some .tooLong
  else if !(text.toList.head?.any Char.isAlpha) then some .badStart
  else if !(text.toList.all isNameChar) then some .badCharacter
  else none

def Fault.message : Fault → String
  | empty => "name cannot be empty"
  | tooLong => "name length must be <= 64"
  | badStart => "name must start with an ASCII letter"
  | badCharacter => "name must contain only ASCII letters, digits, or underscores"

end Name

/-- A name that a decorator can have. -/
structure Name where
  text : String
  faultless : Name.fault? text = none
deriving DecidableEq

/-- A text that was refused as a name, and why. -/
structure NameError where
  text : String
  fault : Name.Fault
deriving DecidableEq, Repr

def NameError.message (e : NameError) : String :=
  "invalid decorator name `" ++ e.text ++ "`: " ++ e.fault.message

namespace Name

def ofString (text : String) : Except NameError Name :=
  match h : fault? text with
  | none => .ok ⟨text, h⟩
  | some fault => .error ⟨text, fault⟩

theorem ofString_text (n : Name) : ofString n.text = .ok n := by
  unfold ofString
  split
  · rfl
  · rename_i fault h
    simp [n.faultless] at h

end Name

end Decorate
