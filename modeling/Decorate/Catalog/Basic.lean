import Decorate.Catalog.Arrangement
import Decorate.Catalog.Format
import Decorate.Catalog.Style
import Decorate.Registry

/-!
# The catalogue

The decorators that come with the library, and a registry that holds
them in the order of `Catalog.records`.
-/

namespace Decorate

namespace Catalog

def records : List DefinitionRecord :=
  [standardVersion, chain, priority, conditional, reasoning, stepByStep, academic, eli5, concise,
   detailed, bullet, outline, outputFormat, tone, audience, summary]

/-- The definitions of the records. -/
def definitions : List Definition :=
  records.filterMap fun r => (Definition.ofRecord r).toOption

def registry : Registry := (Registry.empty.registerAll definitions).1

end Catalog

end Decorate
