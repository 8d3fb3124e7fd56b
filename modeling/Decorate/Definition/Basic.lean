import Decorate.Definition.Record
import Decorate.Json.Reader
import Decorate.Json.Writer
import Decorate.Name
import Decorate.Parameter.Validation
import Decorate.Version.Range
import Decorate.Version.Reader

/-!
# Definitions

A definition is a record that has been checked. Its name and versions
are read, its parameters are declared once each and are consistent with
their own defaults, fragments are mapped for declared parameters only,
and the decorators it requires and conflicts with are different ones
and not itself. The proofs travel with the definition, so whoever holds
one need not check it again.

`Definition.ofRecord` is the check and reports the first fault in the
order in which the fields are listed above; `Definition.toRecord` goes
back.
-/

namespace Decorate

/-! ## Faults -/

/-- Why no record could be read. -/
inductive Unreadable where
  /-- The text is not one well-formed document. -/
  | notJson
  /-- The document is not of the shape of a record. -/
  | wrongShape
deriving DecidableEq, Repr

inductive DefinitionFault where
  | unreadable (cause : Unreadable)
  | name (e : NameError)
  | version (e : VersionError)
  | blankParameter
  | repeatedParameter (name : String)
  | parameter (e : ParameterError)
  | strayMapping (parameter : String)
  | requiredAndConflicting (name : Name)
  | selfReference
  | range (e : RangeError)
deriving DecidableEq

def DefinitionFault.message : DefinitionFault → String
  | .unreadable _ => "<json error>"
  | .name e => e.message
  | .version e => e.message
  | .blankParameter => "parameter name cannot be empty"
  | .repeatedParameter repeated => "parameter `" ++ repeated ++ "` is declared twice"
  | .parameter e => e.message
  | .strayMapping stray => "parameterMapping references undeclared parameter `" ++ stray ++ "`"
  | .requiredAndConflicting other => "`" ++ other.text ++ "` is both required and conflicting"
  | .selfReference => "a decorator cannot reference itself"
  | .range e => e.message

/-- A record that was refused, by its name as written, and why. -/
structure DefinitionError where
  name : String
  fault : DefinitionFault
deriving DecidableEq

def DefinitionError.message (e : DefinitionError) : String :=
  "invalid definition for `" ++ e.name ++ "`: " ++ e.fault.message

/-! ## Compatibility -/

/-- A set of decorator names. -/
abbrev NameSet := Sorted Name.text

structure Compatibility where
  requires : NameSet := .empty
  conflicts : NameSet := .empty
  standard : StandardRange := .unbounded
  models : TextSet := .empty
deriving DecidableEq

namespace Compatibility

/-- The first name that is both required and conflicting. -/
def clash? (requires conflicts : NameSet) : Option Name :=
  requires.toList.find? fun n => conflicts.contains n.text

/-- Holds when the decorator of this name can have these relations. -/
def Consistent (name : Name) (c : Compatibility) : Prop :=
  clash? c.requires c.conflicts = none
    ∧ c.conflicts.contains name.text = false ∧ c.requires.contains name.text = false

instance (name : Name) (c : Compatibility) : Decidable (c.Consistent name) :=
  inferInstanceAs (Decidable (_ ∧ _))

/-- An empty set of models supports them all. -/
def supportsModel (c : Compatibility) (model : String) : Bool :=
  c.models.isEmpty || c.models.contains model

def conflictsWith (c : Compatibility) (name : String) : Bool := c.conflicts.contains name

/-- Reads names one after the other and stops at the first that is none. -/
def readNames : List String → Except DefinitionFault (List Name)
  | [] => .ok []
  | text :: rest =>
    match Name.ofString text with
    | .error e => .error (.name e)
    | .ok name => (readNames rest).map (name :: ·)

/-- Reads a bound on standard versions, if there is one. -/
def readBound : Option String → Except DefinitionFault (Option Version)
  | none => .ok none
  | some text =>
    match Version.ofString text with
    | .error e => .error (.version e)
    | .ok v => .ok (some v)

def readRange (min max : Option String) : Except DefinitionFault StandardRange :=
  match readBound min with
  | .error f => .error f
  | .ok min =>
    match readBound max with
    | .error f => .error f
    | .ok max =>
      match StandardRange.ofBounds min max with
      | .error e => .error (.range e)
      | .ok range => .ok range

def ofRecord (name : Name) (r : CompatibilityRecord) :
    Except DefinitionFault { c : Compatibility // c.Consistent name } :=
  match readNames r.requires with
  | .error f => .error f
  | .ok requires =>
    match readNames r.conflicts with
    | .error f => .error f
    | .ok conflicts =>
      let requires : NameSet := .ofList requires
      let conflicts : NameSet := .ofList conflicts
      match hc : clash? requires conflicts with
      | some both => .error (.requiredAndConflicting both)
      | none =>
        if hs : conflicts.contains name.text = false ∧ requires.contains name.text = false then
          match readRange r.minStandard r.maxStandard with
          | .error f => .error f
          | .ok standard =>
            .ok ⟨{ requires, conflicts, standard, models := .ofList r.models }, hc, hs⟩
        else .error .selfReference

def toRecord (c : Compatibility) : CompatibilityRecord where
  requires := c.requires.toList.map Name.text
  conflicts := c.conflicts.toList.map Name.text
  minStandard := c.standard.min.map Version.text
  maxStandard := c.standard.max.map Version.text
  models := c.models.toList

end Compatibility

/-! ## Definitions -/

/-- The first fault among the declarations of parameters. `seen` holds the names of
those before. -/
def parametersFault? (decorator : String) (seen : List String) :
    List Schema → Option DefinitionFault
  | [] => none
  | s :: rest =>
    if Text.isBlank s.name then some .blankParameter
    else if seen.contains s.name then some (.repeatedParameter s.name)
    else
      match s.checkConsistent decorator with
      | .error e => some (.parameter e)
      | .ok _ => parametersFault? decorator (s.name :: seen) rest

/-- The first mapped name that no schema declares. -/
def strayMapping? (parameters : List Schema) (mapping : Table Mapping) : Option String :=
  mapping.keys.find? fun name => !parameters.any (·.name == name)

structure Definition where
  name : Name
  version : Version
  category : String
  description : Option String
  parameters : List Schema
  template : Template
  compatibility : Compatibility
  /-- Parameters have distinct names that are not blank, and consistent schemas. -/
  declared : parametersFault? name.text [] parameters = none
  /-- Only declared parameters are mapped. -/
  mapped : strayMapping? parameters template.mapping = none
  consistent : compatibility.Consistent name
deriving DecidableEq

namespace Definition

def ofRecord (r : DefinitionRecord) : Except DefinitionError Definition :=
  match Name.ofString r.name with
  | .error e => .error ⟨r.name, .name e⟩
  | .ok name =>
    match Version.ofString r.version with
    | .error e => .error ⟨name.text, .version e⟩
    | .ok version =>
      match hp : parametersFault? name.text [] r.parameters with
      | some f => .error ⟨name.text, f⟩
      | none =>
        match hm : strayMapping? r.parameters r.template.mapping with
        | some parameter => .error ⟨name.text, .strayMapping parameter⟩
        | none =>
          match Compatibility.ofRecord name r.compatibility with
          | .error f => .error ⟨name.text, f⟩
          | .ok c =>
            .ok
              { name, version, category := r.category, description := r.description,
                parameters := r.parameters, template := r.template, compatibility := c.val,
                declared := hp, mapped := hm, consistent := c.property }

/-- The bounds on numbers among all the parameters. -/
def bounds (d : Definition) : List Double := d.parameters.flatMap fun s => s.shape.bounds

/-- Equality in which the numbers of parameter schemas are compared by value. -/
def same (d e : Definition) : Bool :=
  d.name == e.name && d.version == e.version && d.category == e.category
    && d.description == e.description && d.parameters.isEqv e.parameters Schema.same
    && d.template == e.template && d.compatibility == e.compatibility

def toRecord (d : Definition) : DefinitionRecord where
  name := d.name.text
  version := d.version.text
  category := d.category
  description := d.description
  parameters := d.parameters
  template := d.template
  compatibility := d.compatibility.toRecord

/-- Reads a definition from a document. -/
def ofJson (j : Json) : Except DefinitionError Definition :=
  match DefinitionRecord.ofJson? j with
  | some r => ofRecord r
  | none => .error ⟨"<unparsed>", .unreadable .wrongShape⟩

/-- Reads a definition from the text of a record. -/
def ofText (text : String) : Except DefinitionError Definition :=
  match Json.read? text with
  | some j => ofJson j
  | none => .error ⟨"<unparsed>", .unreadable .notJson⟩

/-- The text of the record of a definition. -/
def text (d : Definition) : String := d.toRecord.toJson.write

def placement (d : Definition) : Placement := d.template.placement

def behavior (d : Definition) : Behavior := d.template.behavior

/-- The name and version, by which a registry tells definitions apart. -/
def label (d : Definition) : String := d.name.text ++ "@" ++ d.version.text

def parameter? (d : Definition) (name : String) : Option Schema :=
  d.parameters.find? (·.name == name)

end Definition

end Decorate
