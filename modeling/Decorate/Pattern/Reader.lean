import Decorate.Pattern.Bracket
import Decorate.Pattern.Size

/-!
# Reading patterns

A recursive descent over the text of a pattern. `Pattern.ofString?`
returns nothing for a text that is no pattern; why is not recorded.

The notation has alternatives, groups with or without a name, flags
for a group or for the rest of the enclosing one, counted and uncounted
repetitions, and bracketed sets with nested sets and set operations.
There is no looking around and no reference to an earlier group. How
deep a pattern may be nested is limited, and so is its size.
-/

namespace Decorate

namespace Pattern

/-! ## Repetition counts -/

/-- The largest count that can be written. -/
def countLimit : Nat := 2 ^ (32 : Nat)

/-- Reads a count with the blanks around it. No digits read as no count. -/
def readCount (flags : Flags) (cs : List Char) : Option (Option Nat × List Char) :=
  let (digits, rest) := takeLoose flags Char.isDigit false (cs.dropWhile Text.isBlankChar)
  let rest := rest.dropWhile Text.isBlankChar
  if digits = [] then some (none, rest)
  else
    let n := Nat.ofDigitChars 10 digits 0
    if n < countLimit then some (some n, rest) else none

/-- Reads the bounds of a counted repetition after its opening brace. -/
def readBounds (flags : Flags) (cs : List Char) : Option (Nat × Option Nat × List Char) := do
  let (first, cs) ← readCount flags (skip flags cs)
  match cs with
  | ',' :: rest =>
    let rest := skip flags rest
    match rest with
    | '}' :: rest => return (← first, none, rest)
    | rest =>
      let min ← first
      let (last, rest) ← readCount flags rest
      let max ← last
      match rest with
      | '}' :: rest => if min ≤ max then return (min, some max, rest) else none
      | _ => none
  | '}' :: rest => return (← first, ← first, rest)
  | _ => none

/-- Reads the repetition operator at the start, if there is one, with the mark of
laziness that may follow. -/
def readRepetition (flags : Flags) (cs : List Char) :
    Option (Option (Nat × Option Nat) × List Char) :=
  let lazyMark (cs : List Char) := if cs.head? == some '?' then cs.drop 1 else cs
  match cs with
  | '*' :: rest => some (some (0, none), lazyMark rest)
  | '+' :: rest => some (some (1, none), lazyMark rest)
  | '?' :: rest => some (some (0, some 1), lazyMark rest)
  | '{' :: rest =>
    (readBounds flags rest).map fun (min, max, rest) =>
      (some (min, max), lazyMark (skip flags rest))
  | cs => some (none, cs)

/-! ## Groups and sequences -/

/-- A part of a sequence and how deep its text is nested. Flags and the missing part
before an operator cannot be repeated. -/
structure Part where
  pattern : Pattern
  depth : Nat := 0
  repeatable : Bool := true

/-- Several parts lie one deeper than each. -/
def depthOf (parts : List Part) : Nat :=
  let deepest := (parts.map (·.depth)).foldl Nat.max 0
  if 2 ≤ parts.length then deepest + 1 else deepest

/-- The parts one after the other; the last comes first in the list. -/
def Part.ofSequence (parts : List Part) : Part :=
  { pattern := .sequence (parts.reverse.map (·.pattern)), depth := depthOf parts }

/-- Any one of the branches; the last comes first in the list. -/
def Part.ofChoice (branches : List Part) : Part :=
  match branches with
  | [branch] => branch
  | branches =>
    { pattern := .choice (branches.reverse.map (·.pattern)), depth := depthOf branches }

/-- What stands between the places of a descent: the text to come, the flags in force,
and the group names used so far. -/
structure Cursor where
  rest : List Char
  flags : Flags
  names : List (List Char)

def isNameStart (c : Char) : Bool := c == '_' || Unicode.alphabetic.contains c

def isNamePart (c : Char) : Bool :=
  c == '_' || c == '.' || c == '[' || c == ']' || Unicode.alphanumeric.contains c

/-- Reads the name of a group up to its angle bracket. -/
def readGroupName (names : List (List Char)) (cs : List Char) :
    Option (List Char × List Char) :=
  let name := cs.takeWhile (· != '>')
  match cs.dropWhile (· != '>') with
  | _ :: rest =>
    if name.head?.any isNameStart && name.all isNamePart && !names.contains name then
      some (name, rest)
    else none
  | [] => none

/-- The pattern of a single character or escape. -/
def ofEscape (flags : Flags) : Escape → Pattern
  | .char c => .one (fold flags (.single c))
  | .set s => .one s
  | .look l => .look l

def startAnchor (flags : Flags) : Look :=
  if !flags.multiLine then .textStart else if flags.crlf then .crlfStart else .lineStart

def endAnchor (flags : Flags) : Look :=
  if !flags.multiLine then .textEnd else if flags.crlf then .crlfEnd else .lineEnd

/-- Where a group starts: its inside and whether its place is remembered, or nothing for
a group that only sets flags. -/
inductive Opening where
  | body (remembered : Bool) (inside : Cursor)
  | flags (after : Cursor)

/-- Reads the opening of a group after its parenthesis. -/
def readOpening (cursor : Cursor) : Option Opening :=
  match skip cursor.flags cursor.rest with
  | '?' :: rest =>
    let named (rest : List Char) : Option Opening :=
      (readGroupName cursor.names rest).map fun (name, rest) =>
        .body true { cursor with rest, names := name :: cursor.names }
    match rest with
    | '=' :: _ | '!' :: _ | '<' :: '=' :: _ | '<' :: '!' :: _ => none
    | 'P' :: '<' :: rest => named rest
    | '<' :: rest => named rest
    | rest =>
      match readFlags [] rest cursor.flags with
      | some (flags, seen, ending, rest) =>
        if ending = ':' then some (.body false { cursor with rest, flags })
        else if seen = [] then none
        else some (.flags { cursor with rest, flags })
      | none => none
  | rest => some (.body true { cursor with rest })

/-- How deep the parts of a pattern may stand in one another. -/
def depthLimit : Nat := 250

/-- The part that only sets flags. -/
def Part.setting : Part := { pattern := .empty, repeatable := false }

/-- A group as a part of the sequence that it stands in. -/
def Part.inGroup (remembered : Bool) (inside : Part) : Part :=
  { pattern := if remembered then .group inside.pattern else inside.pattern
    depth := inside.depth + 1 }

/-- The part so many times. -/
def Part.repeated (part : Part) (min : Nat) (max : Option Nat) : Part :=
  { pattern := part.pattern.repeated min max, depth := part.depth + 1 }

mutual
/-- Reads alternatives up to a closing parenthesis or the end, down to so many groups in
one another. `parts` is the sequence read so far and `branches` the alternatives before
it, both last first. -/
def readBranches :
    Nat → Nat → Cursor → List Part → List Part → Option (Part × Cursor)
  | _, 0, _, _, _ => none
  | levels, fuel + 1, cursor, parts, branches =>
    let flags := cursor.flags
    let push (rest : List Char) (part : Part) : Option (Part × Cursor) :=
      readBranches levels fuel { cursor with rest } (part :: parts) branches
    match skip flags cursor.rest with
    | [] => some (Part.ofChoice (Part.ofSequence parts :: branches), { cursor with rest := [] })
    | ')' :: rest =>
      some (Part.ofChoice (Part.ofSequence parts :: branches), { cursor with rest := ')' :: rest })
    | '|' :: rest =>
      readBranches levels fuel { cursor with rest } [] (Part.ofSequence parts :: branches)
    | '(' :: rest =>
      match readOpening { cursor with rest } with
      | none => none
      | some (.flags after) =>
        readBranches levels fuel after (Part.setting :: parts) branches
      | some (.body remembered inside) =>
        match readGroup levels fuel inside with
        | some (part, rest, names) =>
          readBranches levels fuel { rest, flags, names } (part.inGroup remembered :: parts)
            branches
        | none => none
    | '[' :: rest =>
      match readBracket flags (depthLimit + 1) (2 * rest.length + 2) rest with
      | some (s, rest) => push rest { pattern := .one s.set, depth := s.depth }
      | none => none
    | '.' :: rest =>
      match dotSet? flags with
      | some s => push rest { pattern := .one s }
      | none => none
    | '^' :: rest => push rest { pattern := .look (startAnchor flags) }
    | '$' :: rest => push rest { pattern := .look (endAnchor flags) }
    | '\\' :: rest =>
      match readEscape flags rest with
      | some (escape, rest) => push rest { pattern := ofEscape flags escape }
      | none => none
    | c :: rest =>
      match readRepetition flags (c :: rest) with
      | none => none
      | some (some (min, max), rest) =>
        match parts with
        | part :: before =>
          if part.repeatable then
            readBranches levels fuel { cursor with rest } (part.repeated min max :: before)
              branches
          else none
        | [] => none
      | some (none, _) => push rest { pattern := ofEscape flags (.char c) }

/-- Reads the inside of a group and its closing parenthesis. -/
def readGroup : Nat → Nat → Cursor → Option (Part × List Char × List (List Char))
  | 0, _, _ | _, 0, _ => none
  | levels + 1, fuel + 1, inside =>
    match readBranches levels fuel inside [] [] with
    | some (part, { rest := ')' :: rest, names, .. }) => some (part, rest, names)
    | _ => none
end

/-- Reads a whole text as a pattern. -/
def ofString? (text : String) : Option Pattern :=
  let cs := text.toList
  match readBranches depthLimit (2 * cs.length + 2) ⟨cs, {}, []⟩ [] [] with
  | some (part, cursor) =>
    if cursor.rest = [] ∧ part.depth ≤ depthLimit ∧ part.pattern.fits then some part.pattern
    else none
  | none => none

end Pattern

end Decorate
