import Decorate.Definition.Basic

/-!
# Registries

A registry holds definitions, at most one for each name and version. It
keeps them on shelves, one for each name, in ascending order of
version, and remembers in which order they were registered.

A request for a name gets the highest version on its shelf; a request
that also asks for a version gets the highest one that serves it.
-/

namespace Decorate

inductive RegistryError where
  | unknown (name : String)
  | duplicate (name : String) (version : Version)
  /-- No registered version serves the request; `available` lists them in ascending
  order. -/
  | incompatible (name : String) (requested : Version) (available : List Version)
  | invalid (e : DefinitionError)
deriving DecidableEq

def RegistryError.message : RegistryError → String
  | unknown name => "decorator `" ++ name ++ "` is not registered"
  | duplicate name version =>
    "decorator `" ++ name ++ "` version " ++ version.text ++ " is already registered"
  | incompatible name requested available =>
    "decorator `" ++ name ++ "` has no version compatible with " ++ requested.text
      ++ " (available: " ++ Text.join ", " (available.map Version.text) ++ ")"
  | invalid e => e.message

/-! ## Shelves -/

/-- The definitions of one name, by ascending version. -/
abbrev Shelf := List Definition

namespace Shelf

def insert (d : Definition) : Shelf → Shelf
  | [] => [d]
  | e :: rest => if d.version < e.version then d :: e :: rest else e :: insert d rest

def find? (shelf : Shelf) (v : Version) : Option Definition :=
  List.find? (fun d => d.version == v) shelf

def versions (shelf : Shelf) : List Version := shelf.map Definition.version

/-- The highest version that serves the request. -/
def serving? (shelf : Shelf) (requested : Version) : Option Definition :=
  List.find? (fun d => d.version.serves requested) shelf.reverse

/-- What answers a request: the highest version, or the highest that serves the one asked
for. -/
def answer? (shelf : Shelf) : Option Version → Option Definition
  | none => shelf.getLast?
  | some requested => shelf.serving? requested

/-- What a removal takes off the shelf: one version, if it is there, or all. -/
def removed? (shelf : Shelf) : Option Version → Option (List Definition)
  | some v => (shelf.find? v).map ([·])
  | none => some shelf

end Shelf

/-! ## Registries -/

structure Registry where
  shelves : Table Shelf := .empty
  /-- Name and version of what is registered, in order of registration. -/
  order : List (String × Version) := []

namespace Registry

def empty : Registry := {}

instance : Inhabited Registry := ⟨empty⟩

def shelf (r : Registry) (name : String) : Shelf := (r.shelves.get? name).getD []

/-- The definition registered under a name and version. -/
def find? (r : Registry) (name : String) (v : Version) : Option Definition :=
  (r.shelf name).find? v

/-! ## Changes -/

/-- Registers a definition, and gives the registry that is there afterwards also when the
definition is refused: its name has a shelf before it is known what is on it. -/
def registerInPlace (r : Registry) (d : Definition) : Registry × Except RegistryError Unit :=
  let name := d.name.text
  let shelf := r.shelf name
  match shelf.find? d.version with
  | some _ => ({ r with shelves := r.shelves.set name shelf }, .error (.duplicate name d.version))
  | none =>
    ({ shelves := r.shelves.set name (Shelf.insert d shelf),
       order := r.order ++ [(name, d.version)] }, .ok ())

/-- Registers definitions one after the other up to the first that is there already. The
registry comes back with what was registered in either case. -/
def registerAll (r : Registry) : List Definition → Registry × Except RegistryError Unit
  | [] => (r, .ok ())
  | d :: rest =>
    match r.registerInPlace d with
    | (r, .ok ()) => registerAll r rest
    | (r, .error e) => (r, .error e)

/-- Removes one version of a name, or all of them, and returns what was removed in
ascending order. A shelf with nothing left on it goes as well. -/
def unregisterInPlace (r : Registry) (name : String) (version : Option Version) :
    Registry × Except RegistryError (List Definition) :=
  match r.shelves.get? name with
  | none => (r, .error (.unknown name))
  | some shelf =>
    match shelf.removed? version with
    | none => (r, .error (.unknown name))
    | some gone =>
      let isGone (v : Version) : Bool := gone.any fun d => d.version == v
      let rest := shelf.filter fun d => !isGone d.version
      ({ shelves := if rest.isEmpty then r.shelves.erase name else r.shelves.set name rest,
         order := r.order.filter fun (n, v) => !(n == name && isGone v) }, .ok gone)

/-- The registry with the definition, if it is not refused. -/
def register (r : Registry) (d : Definition) : Except RegistryError Registry :=
  (r.registerInPlace d).2.map fun _ => (r.registerInPlace d).1

/-- What was removed and the registry without it, if there is anything to remove. -/
def unregister (r : Registry) (name : String) (version : Option Version) :
    Except RegistryError (List Definition × Registry) :=
  (r.unregisterInPlace name version).2.map (·, (r.unregisterInPlace name version).1)

/-! ## Queries -/

/-- The highest version of a name. -/
def latest? (r : Registry) (name : String) : Option Definition := (r.shelf name).getLast?

/-- The definition that serves a request for a name, and for a version if one is
given. -/
def lookup (r : Registry) (name : String) (request : Option Version) :
    Except RegistryError Definition :=
  match r.shelves.get? name with
  | none => .error (.unknown name)
  | some shelf =>
    match shelf.answer? request with
    | some d => .ok d
    | none => .error (.incompatible name (request.getD .zero) shelf.versions)

def contains (r : Registry) (name : String) : Bool := r.shelves.contains name

def versions (r : Registry) (name : String) : List Version := (r.shelf name).versions

/-- The registered names in ascending order. -/
def names (r : Registry) : List String := r.shelves.keys

/-- The definitions in order of registration. -/
def toList (r : Registry) : List Definition := r.order.filterMap fun (name, v) => r.find? name v

def size (r : Registry) : Nat := r.order.length

def isEmpty (r : Registry) : Bool := r.order.isEmpty

def inCategory (r : Registry) (category : String) : List Definition :=
  r.toList.filter (·.category == category)

/-- Appends what is not in the list yet. -/
def addNew (seen : List String) (s : String) : List String :=
  if seen.contains s then seen else seen ++ [s]

/-- The categories, in the order in which they first occur. -/
def categories (r : Registry) : List String :=
  (r.toList.map Definition.category).foldl addNew []

def supportingModel (r : Registry) (model : String) : List Definition :=
  r.toList.filter (·.compatibility.supportsModel model)

def supportingStandard (r : Registry) (v : Version) : List Definition :=
  r.toList.filter (·.compatibility.standard.contains v)

end Registry

end Decorate
