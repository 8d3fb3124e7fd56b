import Decorate.Unicode.Age
import Decorate.Unicode.Boundary
import Decorate.Unicode.ScriptExtension

/-!
# Names of properties

A set of characters is called by one name, of a property, a category or
a script, or by the name of a sorting and that of a value in it. Case,
blanks, hyphens and underscores do not count, and neither does an `is`
in front: `plainName` takes them away, and `ofName?` and
`ofNameAndValue?` look the rest up.
-/

namespace Decorate

namespace Unicode

/-- What counts of a name. Letters beyond ASCII do not. The comment property of old is
abbreviated to `isc`, which is therefore not a `c` with an `is` in front. -/
def plainName (name : List Char) : String :=
  let hasIs :=
    match name with
    | i :: s :: _ => (i == 'i' || i == 'I') && (s == 's' || s == 'S')
    | _ => false
  let rest := if hasIs then name.drop 2 else name
  let plain := (rest.filter fun c =>
    c.toNat < 128 && c != ' ' && c != '-' && c != '_').map Char.toLower
  if hasIs && plain == ['c'] then "isc" else String.ofList plain

/-! ## Categories -/

/-- Plain long names of the categories and of their groups. -/
def categoryLongNames : List (String × String) :=
  [("other", "c"), ("control", "cc"), ("cntrl", "cc"), ("format", "cf"), ("unassigned", "cn"),
   ("privateuse", "co"), ("letter", "l"), ("casedletter", "lc"), ("lowercaseletter", "ll"),
   ("modifierletter", "lm"), ("otherletter", "lo"), ("titlecaseletter", "lt"),
   ("uppercaseletter", "lu"), ("mark", "m"), ("combiningmark", "m"), ("spacingmark", "mc"),
   ("enclosingmark", "me"), ("nonspacingmark", "mn"), ("number", "n"), ("decimalnumber", "nd"),
   ("digit", "nd"), ("letternumber", "nl"), ("othernumber", "no"), ("punctuation", "p"),
   ("punct", "p"), ("connectorpunctuation", "pc"), ("dashpunctuation", "pd"),
   ("closepunctuation", "pe"), ("finalpunctuation", "pf"), ("initialpunctuation", "pi"),
   ("otherpunctuation", "po"), ("openpunctuation", "ps"), ("symbol", "s"),
   ("currencysymbol", "sc"), ("modifiersymbol", "sk"), ("mathsymbol", "sm"),
   ("othersymbol", "so"), ("separator", "z"), ("lineseparator", "zl"),
   ("paragraphseparator", "zp"), ("spaceseparator", "zs")]

/-- A category or a group of them by its plain short name. No character is a surrogate. -/
def shortCategory? (name : List Char) : Option CharSet :=
  match name with
  | [group] => if "clmnpsz".toList.contains group then some (ofGroup group.toUpper) else none
  | ['l', 'c'] =>
    some (ofCategories fun
      | .lowercaseLetter | .uppercaseLetter | .titlecaseLetter => true
      | _ => false)
  | ['c', 's'] => none
  | [group, kind] =>
    (Category.ofName? (String.ofList [group.toUpper, kind])).map Category.set
  | _ => none

/-- A category, a group of them, or one of three sets that go with them. -/
def category? (name : String) : Option CharSet :=
  match name with
  | "any" => some .any
  | "ascii" => some (.range 0 0x7f)
  | "assigned" => some Category.unassigned.set.compl
  | name => shortCategory? ((categoryLongNames.lookup name).getD name).toList

/-! ## Looking up -/

/-- The set of a single name. -/
def ofName? (name : List Char) : Option CharSet :=
  let name := plainName name
  property? name <|> category? name <|> (script? name).map (·.set)

/-- The set of the characters that have the named value in the named sorting. -/
def ofNameAndValue? (name value : List Char) : Option CharSet :=
  let value := plainName value
  match plainName name with
  | "gc" | "generalcategory" => category? value
  | "sc" | "script" => (script? value).map (·.set)
  | "scx" | "scriptextensions" => (script? value).map (·.extension)
  | "age" => addedBy? value
  | "gcb" | "graphemeclusterbreak" => kind? graphemeKinds value
  | "wb" | "wordbreak" => kind? wordKinds value
  | "sb" | "sentencebreak" => kind? sentenceKinds value
  | _ => none

end Unicode

end Decorate
