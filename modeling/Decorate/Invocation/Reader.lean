import Decorate.Invocation.Basic
import Decorate.Name
import Decorate.Number.Numeral
import Decorate.Text.Blank
import Decorate.Version.Reader

/-!
# Reading prompts

A prompt is read one character at a time. `Mode` says what the reader
is in the middle of, with what it has collected there, and `Mode.step`
how a character changes that. Lists of values may be nested, so the
modes inside a list carry the lists that are open, innermost first.

The reader never looks ahead and never goes back. Hence what it makes
of a text followed by another depends on the first text only through
the state that it leaves (`readFrom_append`), and it stops after as
many steps as there are characters.
-/

namespace Decorate

namespace Invocation

/-! ## State -/

/-- An invocation whose argument list is open. Arguments read so far are in order. -/
structure Opened where
  name : String
  version : Option Version
  parameters : Json.Members
deriving DecidableEq

/-- The lists open around a value, innermost first, each with its items so far, the last
one first. -/
abbrev Nesting := List (List Json)

/-- The place of a value: the invocation and the key that it belongs to, and the lists
open around it. -/
structure Slot where
  opened : Opened
  key : String
  nesting : Nesting
deriving DecidableEq

/-- Texts being collected are held last character first. -/
inductive Mode where
  /-- Between invocations. -/
  | between
  /-- After one or two plus signs that may start an invocation. -/
  | plus
  | plusPlus
  /-- In the text after the invocations. -/
  | prompt (text : List Char)
  | name (text : List Char)
  | version (name : String) (text : List Char)
  /-- In an argument list, before an argument or its end. -/
  | argument (opened : Opened)
  | key (opened : Opened) (text : List Char)
  /-- Behind a key, before its equals sign. -/
  | equals (opened : Opened) (key : String)
  /-- Before a value. -/
  | value (slot : Slot)
  | bare (slot : Slot) (text : List Char)
  | quoted (slot : Slot) (quote : Char) (text : List Char)
  /-- After a backslash in a quoted text. -/
  | escaped (slot : Slot) (quote : Char) (text : List Char)
  /-- In a list, before an item or its end. -/
  | item (slot : Slot)
  /-- Behind a value. -/
  | afterValue (slot : Slot)
deriving DecidableEq

structure State where
  /-- The bytes read. -/
  position : Nat := 0
  /-- The invocations read, the last one first. -/
  done : List Invocation := []
  mode : Mode := .between
deriving DecidableEq

/-! ## Values -/

/-- The value of a bare text: a flag, an integer of 64 bits, a finite number, or the
text itself. -/
def literal (cs : List Char) : Json :=
  if cs = ['t', 'r', 'u', 'e'] then .bool true
  else if cs = ['f', 'a', 'l', 's', 'e'] then .bool false
  else
    let integer :=
      (Numeral.integer? cs).bind fun i =>
        if i < 2 ^ (63 : Nat) then Json.Number.ofInt? i else none
    match integer with
    | some n => .num n
    | none =>
      match Numeral.real? cs with
      | some (.finite x) => .num (.real x)
      | _ => .str (String.ofList cs)

/-- Puts a finished value where it belongs: into the innermost open list, or under its
key. -/
def Slot.fill (slot : Slot) (value : Json) : Slot :=
  match slot.nesting with
  | [] =>
    { slot with opened :=
        { slot.opened with parameters := Json.put slot.key value slot.opened.parameters } }
  | items :: outer => { slot with nesting := (value :: items) :: outer }

/-- Opens a list. -/
def Slot.openList (slot : Slot) : Slot := { slot with nesting := [] :: slot.nesting }

/-- Characters that end a bare text here. -/
def Slot.isTerminator (slot : Slot) (c : Char) : Bool :=
  c == ',' || c == ')' || (c == ']' && !slot.nesting.isEmpty)

/-- Closes the innermost list, which becomes a value of the place around it. -/
def Slot.closeList (slot : Slot) : Slot :=
  match slot.nesting with
  | [] => slot
  | items :: outer => { slot with nesting := outer }.fill (.arr items.reverse)

def Opened.close (o : Opened) : Invocation := ⟨o.name, o.version, o.parameters⟩

/-! ## Steps -/

def isVersionChar (c : Char) : Bool := c.isAlphanum || c == '.' || c == '-' || c == '+'

/-- What a step does apart from reading the character: go on in a mode, go on after an
invocation is complete, or stop. -/
inductive Move where
  | go (mode : Mode)
  | complete (invocation : Invocation) (mode : Mode)
  /-- Stop in front of the character. -/
  | refuse (expected : Expectation)
  /-- Stop behind the character. -/
  | refuseAfter (expected : Expectation)
  | invalidVersion (decorator version : String)

/-- A character between invocations. -/
def betweenMode (c : Char) : Mode :=
  if Text.isBlankChar c then .between else if c = '+' then .plus else .prompt [c]

/-- The first character of a value, blanks left out. -/
def valueMove (slot : Slot) (c : Char) : Move :=
  if c = '"' ∨ c = '\'' then .go (.quoted slot c [])
  else if c = '[' then .go (.item slot.openList)
  else if slot.isTerminator c then .refuse .value
  else .go (.bare slot [c])

/-- A character after a value. -/
def afterValueMove (slot : Slot) (c : Char) : Move :=
  if Text.isBlankChar c then .go (.afterValue slot)
  else
    match slot.nesting with
    | [] =>
      if c = ',' then .go (.argument slot.opened)
      else if c = ')' then .complete slot.opened.close .between
      else .refuse (.argumentEnd c)
    | _ :: _ =>
      if c = ',' then .go (.item slot)
      else if c = ']' then .go (.afterValue slot.closeList)
      else .refuse (.itemEnd c)

/-- The end of a name or version at a character that belongs to neither. -/
def endHead (name : String) (version : Option Version) (c : Char) : Move :=
  if c = '(' then .go (.argument ⟨name, version, []⟩)
  else .complete ⟨name, version, []⟩ (betweenMode c)

/-- Takes the collected text of a version. -/
def readVersion (name : String) (text : List Char) : Except InvocationError Version :=
  match Version.ofString (String.ofList text.reverse) with
  | .ok v => .ok v
  | .error _ => .error (.invalidVersion name (String.ofList text.reverse))

def bareValue (text : List Char) : Json := literal (Text.trimChars text.reverse)

def Mode.move (c : Char) : Mode → Move
  | between => .go (betweenMode c)
  | plus => .go (if c = '+' then .plusPlus else .prompt [c, '+'])
  | plusPlus => .go (if c = '+' then .name [] else .prompt [c, '+', '+'])
  | prompt text => .go (.prompt (c :: text))
  | name text =>
    if Name.isNameChar c then .go (.name (c :: text))
    else if text = [] then .refuse .decoratorName
    else if c = '@' then .go (.version (String.ofList text.reverse) [])
    else endHead (String.ofList text.reverse) none c
  | version decorator text =>
    if isVersionChar c then .go (.version decorator (c :: text))
    else
      match readVersion decorator text with
      | .ok v => endHead decorator (some v) c
      | .error _ => .invalidVersion decorator (String.ofList text.reverse)
  | argument opened =>
    if Text.isBlankChar c then .go (.argument opened)
    else if c = ')' then .complete opened.close .between
    else if Name.isNameChar c then .go (.key opened [c])
    else .refuse .parameterName
  | key opened text =>
    if Name.isNameChar c then .go (.key opened (c :: text))
    else if c = ' ' ∨ c = '\t' then .go (.equals opened (String.ofList text.reverse))
    else if c = '=' then .go (.value ⟨opened, String.ofList text.reverse, []⟩)
    else .refuseAfter (.equalsSign (String.ofList text.reverse))
  | equals opened keyText =>
    if c = ' ' ∨ c = '\t' then .go (.equals opened keyText)
    else if c = '=' then .go (.value ⟨opened, keyText, []⟩)
    else .refuseAfter (.equalsSign keyText)
  | value slot => if Text.isBlankChar c then .go (.value slot) else valueMove slot c
  | bare slot text =>
    if slot.isTerminator c then afterValueMove (slot.fill (bareValue text)) c
    else .go (.bare slot (c :: text))
  | quoted slot quote text =>
    if c = '\\' then .go (.escaped slot quote text)
    else if c = quote then .go (.afterValue (slot.fill (.str (String.ofList text.reverse))))
    else .go (.quoted slot quote (c :: text))
  | escaped slot quote text =>
    .go (.quoted slot quote ((if c = 'n' then '\n' else if c = 't' then '\t' else c) :: text))
  | item slot =>
    if Text.isBlankChar c then .go (.item slot)
    else if c = ']' then .go (.afterValue slot.closeList)
    else valueMove slot c
  | afterValue slot => afterValueMove slot c

/-- Reads one character. -/
def State.step (s : State) (c : Char) : Except InvocationError State :=
  match s.mode.move c with
  | .go mode => .ok { s with position := s.position + c.utf8Size, mode }
  | .complete invocation mode =>
    .ok { position := s.position + c.utf8Size, done := invocation :: s.done, mode }
  | .refuse expected => .error (.malformed s.position expected)
  | .refuseAfter expected => .error (.malformed (s.position + c.utf8Size) expected)
  | .invalidVersion decorator version => .error (.invalidVersion decorator version)

/-! ## The end of the text -/

/-- Ends the text after the invocations read. -/
def State.finish (s : State) (last : List Invocation) (text : List Char) :
    Except InvocationError Prompt :=
  .ok ⟨s.done.reverse ++ last, String.ofList text⟩

/-- What the reader makes of the end of the text. -/
def State.result (s : State) : Except InvocationError Prompt :=
  match s.mode with
  | .between => s.finish [] []
  | .plus => s.finish [] ['+']
  | .plusPlus => s.finish [] ['+', '+']
  | .prompt text => s.finish [] text.reverse
  | .name [] => .error (.malformed s.position .decoratorName)
  | .name text => s.finish [⟨String.ofList text.reverse, none, []⟩] []
  | .version name text =>
    match readVersion name text with
    | .ok v => s.finish [⟨name, some v, []⟩] []
    | .error e => .error e
  | .key _ text => .error (.malformed s.position (.equalsSign (String.ofList text.reverse)))
  | .equals _ key => .error (.malformed s.position (.equalsSign key))
  | .argument opened => .error (.unterminated opened.name)
  | .value slot | .bare slot _ | .quoted slot _ _ | .escaped slot _ _ | .item slot
  | .afterValue slot => .error (.unterminated slot.opened.name)

/-! ## Whole texts -/

/-- Reads characters one after the other. -/
def readFrom : State → List Char → Except InvocationError State
  | s, [] => .ok s
  | s, c :: rest =>
    match s.step c with
    | .ok s => readFrom s rest
    | .error e => .error e

theorem readFrom_append {s : State} {xs ys : List Char} :
    readFrom s (xs ++ ys) = (readFrom s xs).bind fun s => readFrom s ys := by
  induction xs generalizing s with
  | nil => rfl
  | cons c rest ih =>
    simp only [List.cons_append, readFrom]
    cases s.step c with
    | error e => rfl
    | ok t => exact ih

end Invocation

/-- Splits a text into the invocations at its head and the prompt after them. -/
def Prompt.read (text : String) : Except InvocationError Prompt :=
  match Invocation.readFrom {} text.toList with
  | .ok s => s.result
  | .error e => .error e

end Decorate
