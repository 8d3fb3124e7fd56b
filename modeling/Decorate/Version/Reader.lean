import Decorate.Text.Blank
import Decorate.Text.CharLiteral
import Decorate.Version.Basic

/-!
# Reading versions

`Version.ofChars` reads `major.minor.patch[-pre][+build]` and, where the
text goes wrong, says which part was being read. `Version.ofString`
also forgives blanks around the version and keeps the text as it was
given for the message.
-/

namespace Decorate

namespace Version

/-- The part of a version that a reader is at. -/
inductive Part where
  | major
  | minor
  | patch
  | pre
  | build
deriving DecidableEq, Repr

def Part.describe : Part → String
  | major => "major version number"
  | minor => "minor version number"
  | patch => "patch version number"
  | pre => "pre-release identifier"
  | build => "build metadata"

inductive Fault where
  | empty
  /-- The text ends where a number or a dot had to follow. -/
  | unexpectedEnd (part : Part)
  /-- A character stands where a number had to. -/
  | unexpectedChar (c : Char) (part : Part)
  /-- A character stands where a dot or the end had to. -/
  | unexpectedAfter (c : Char) (part : Part)
  | leadingZero (part : Part)
  | tooLarge (part : Part)
  | emptySegment (part : Part)
deriving DecidableEq, Repr

def Fault.message : Fault → String
  | empty => "empty string, expected a semver version"
  | unexpectedEnd part => "unexpected end of input while parsing " ++ part.describe
  | unexpectedChar c part =>
    "unexpected character " ++ Text.charLiteral c ++ " while parsing " ++ part.describe
  | unexpectedAfter c part =>
    "unexpected character " ++ Text.charLiteral c ++ " after " ++ part.describe
  | leadingZero part => "invalid leading zero in " ++ part.describe
  | tooLarge part => "value of " ++ part.describe ++ " exceeds u64::MAX"
  | emptySegment part => "empty identifier segment in " ++ part.describe

/-! ## Parts -/

/-- Reads a number without leading zeros and returns it with the rest. -/
def readNumber (part : Part) (cs : List Char) : Except Fault (UInt64 × List Char) :=
  let digits := cs.takeWhile Char.isDigit
  let rest := cs.dropWhile Char.isDigit
  match digits with
  | [] =>
    match rest with
    | [] => .error (.unexpectedEnd part)
    | c :: _ => .error (.unexpectedChar c part)
  | first :: more =>
    if first = '0' ∧ more ≠ [] then .error (.leadingZero part)
    else
      let value := Nat.ofDigitChars 10 digits 0
      if value < UInt64.size then .ok (.ofNat value, rest) else .error (.tooLarge part)

/-- Reads the dot after a part. -/
def readDot (part : Part) : List Char → Except Fault (List Char)
  | '.' :: rest => .ok rest
  | c :: _ => .error (.unexpectedAfter c part)
  | [] => .error (.unexpectedEnd part)

/-- What stands between two dots of a tag, before it is known not to be empty. -/
abbrev Chunk := { cs : List Char // cs.all Segment.isSegmentChar = true }

/-- Cuts a text at its first character that is neither of a segment nor a dot, and what
stands before at the dots: the first chunk, the others and the rest. -/
def splitChunks : List Char → Chunk × List Chunk × List Char
  | [] => (⟨[], rfl⟩, [], [])
  | c :: rest =>
    if c = '.' then
      let (first, more, tail) := splitChunks rest
      (⟨[], rfl⟩, first :: more, tail)
    else if h : Segment.isSegmentChar c = true then
      let (first, more, tail) := splitChunks rest
      (⟨c :: first.val, by simp only [List.all_cons, h, first.property, Bool.and_self]⟩, more, tail)
    else (⟨[], rfl⟩, [], c :: rest)

/-- Takes the chunks for segments. Refuses the first that is empty or that the part does
not admit for its leading zero. -/
def segmentsOf (part : Part) (admits : Segment → Bool) :
    List Chunk → Except Fault { segments : List Segment // segments.all admits = true }
  | [] => .ok ⟨[], rfl⟩
  | chunk :: rest =>
    if hc : chunk.val = [] then .error (.emptySegment part)
    else
      let segment : Segment := ⟨chunk.val, hc, chunk.property⟩
      if ha : admits segment = true then
        match segmentsOf part admits rest with
        | .ok segments =>
          .ok ⟨segment :: segments.val,
            by simp only [List.all_cons, ha, segments.property, Bool.and_self]⟩
        | .error fault => .error fault
      else .error (.leadingZero part)

/-- Reads the segments that follow `mark`, if it is there. The part returned is the
last one read. -/
def readTag (mark : Char) (part before : Part) (admits : Segment → Bool) :
    List Char →
      Except Fault ({ segments : List Segment // segments.all admits = true } × Part × List Char)
  | [] => .ok (⟨[], rfl⟩, before, [])
  | c :: rest =>
    if c = mark then
      let (first, more, tail) := splitChunks rest
      match segmentsOf part admits (first :: more) with
      | .ok segments => .ok (segments, part, tail)
      | .error fault => .error fault
    else .ok (⟨[], rfl⟩, before, c :: rest)

/-! ## Whole versions -/

def ofChars (cs : List Char) : Except Fault Version := do
  if cs = [] then throw .empty
  let (major, cs) ← readNumber .major cs
  let cs ← readDot .major cs
  let (minor, cs) ← readNumber .minor cs
  let cs ← readDot .minor cs
  let (patch, cs) ← readNumber .patch cs
  let (pre, part, cs) ← readTag '-' .pre .patch (fun s => !s.hasLeadingZero) cs
  let (build, part, cs) ← readTag '+' .build part (fun _ => true) cs
  match cs with
  | [] => return ⟨major, minor, patch, pre.val, build.val, pre.property⟩
  | c :: _ => throw (.unexpectedAfter c part)

end Version

/-- A text that was refused as a version, and why. -/
structure VersionError where
  text : String
  fault : Version.Fault
deriving DecidableEq, Repr

def VersionError.message (e : VersionError) : String :=
  "invalid version `" ++ e.text ++ "`: " ++ e.fault.message

/-- Reads a version exactly as it stands. -/
def Version.ofExactString (text : String) : Except VersionError Version :=
  match ofChars text.toList with
  | .ok v => .ok v
  | .error fault => .error ⟨text, fault⟩

/-- Reads a version after cutting off the blanks around it. -/
def Version.ofString (text : String) : Except VersionError Version :=
  match ofChars (Text.trimChars text.toList) with
  | .ok v => .ok v
  | .error fault => .error ⟨text, fault⟩

end Decorate
