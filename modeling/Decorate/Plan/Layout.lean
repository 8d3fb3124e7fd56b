import Decorate.Plan.Basic

/-!
# Layout

How the texts of a plan and the base prompt become one prompt. The steps
are taken in order, and those whose text is blank leave no trace. The
text of a step that takes the place of the prompt is the whole output;
otherwise the texts before the prompt, the prompt and the texts after it
follow each other with a blank line between them.

The texts of one place are kept in a `Bucket`. An accumulating text
goes to the end of it. All overriding texts share one entry, which
stands where the first of them came and holds the last.
-/

namespace Decorate

/-! ## Buckets -/

structure Bucket where
  texts : List String := []
  /-- The index of the entry that the overriding texts share. -/
  slot : Option Nat := none
deriving DecidableEq, Repr

namespace Bucket

def empty : Bucket := {}

def add (b : Bucket) (behavior : Behavior) (text : String) : Bucket :=
  match behavior, b.slot with
  | .accumulate, _ => { b with texts := b.texts ++ [text] }
  | .override, some index => { b with texts := b.texts.set index text }
  | .override, none => { texts := b.texts ++ [text], slot := some b.texts.length }

/-- Holds when the shared entry is there. -/
def WellFormed (b : Bucket) : Prop := ∀ index, b.slot = some index → index < b.texts.length

end Bucket

/-! ## Drafts -/

/-- What the steps dealt with so far have contributed to the prompt. -/
structure Draft where
  before : Bucket := .empty
  after : Bucket := .empty
  /-- The text that takes the place of the prompt. -/
  replacement : Option String := none
deriving DecidableEq, Repr

namespace Draft

/-- Puts the text of a step in its place. -/
def add (d : Draft) (s : Step) : Draft :=
  let text := s.render
  if Text.isBlank text then d
  else
    match s.placement with
    | .prepend => { d with before := d.before.add s.behavior text }
    | .append => { d with after := d.after.add s.behavior text }
    | .override | .replace => { d with replacement := some text }

def ofSteps (steps : List Step) : Draft := steps.foldl add {}

/-- The prompt that the draft makes of a base prompt. -/
def finish (d : Draft) (base : String) : String :=
  match d.replacement with
  | some text => text
  | none =>
    Text.join Instance.paragraphBreak <|
      d.before.texts ++ (if Text.isBlank base then [] else [base]) ++ d.after.texts

end Draft

/-- The prompt that the plan makes of a base prompt. -/
def Plan.render (plan : Plan) (base : String) : String := (Draft.ofSteps plan.steps).finish base

/-- Composes a request around a base prompt. -/
def compose (registry : Registry) (config : Config) (request : List Instance) (base : String) :
    Except PlanError String :=
  (Plan.ofRequest registry config request).map fun plan => plan.render base

end Decorate
