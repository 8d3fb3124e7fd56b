import Decorate.Definition.Basic

/-!
# Words of the catalogue

Shorthands in which the records of the catalogue are written.
-/

namespace Decorate

namespace Catalog

/-- The place for the fragment of a parameter in an instruction. -/
def slot (parameter : String) : String := "\x7b" ++ parameter ++ "\x7d"

/-- The place for the value in a format. -/
def valueSlot : String := slot "value"

/-- Bounds that are small integers. -/
def wholeRange (min max : Nat) : Bounds Double where
  min := (Binary64.ofNat? false min).map .finite
  max := (Binary64.ofNat? false max).map .finite

end Catalog

end Decorate
