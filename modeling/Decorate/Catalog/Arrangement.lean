import Decorate.Catalog.Words

/-!
# Decorators that arrange others

The four decorators that add no text: one chooses the standard version,
the others schedule the decorators that they name.
-/

namespace Decorate

namespace Catalog

def standardVersion : DefinitionRecord where
  name := "Version"
  version := "1.0.0"
  category := "meta"
  description := some
    "Selects the decorator standard version for the request. Must be the first decorator."
  parameters :=
    [{ name := "standard",
       shape := .simple .text { pattern := some "^\\d+\\.\\d+\\.\\d+$" },
       description := some "Standard version, major.minor.patch",
       required := true }]

def chain : DefinitionRecord where
  name := "Chain"
  version := "1.0.0"
  category := "meta"
  description := some "Applies the listed decorators in sequence at this position."
  parameters :=
    [{ name := "decorators",
       shape := .withItems .list { length := { min := some 1 } } (.simple .text {}),
       description := some "Decorator names, applied in order",
       required := true },
     { name := "stopOnFailure",
       shape := .simple .boolean {},
       description := some "Fail the request when a listed decorator cannot be resolved",
       default := some (.bool true) }]

def priority : DefinitionRecord where
  name := "Priority"
  version := "1.0.0"
  category := "meta"
  description := some "Resolves overlapping decorators by precedence; earlier names win."
  parameters :=
    [{ name := "decorators",
       shape := .withItems .list { length := { min := some 1 } } (.simple .text {}),
       description := some "Decorator names, highest priority first",
       required := true },
     { name := "mode",
       shape := .simple .enum { allowed := ["override", "merge", "cascade"] },
       description := some "How lower-priority decorators are treated",
       default := some (.str "override") },
     { name := "explicit",
       shape := .simple .boolean {},
       description := some "Annotate lower-priority instructions in cascade mode",
       default := some (.bool false) }]

def conditional : DefinitionRecord where
  name := "Conditional"
  version := "1.0.0"
  category := "meta"
  description := some
    "Applies one list of decorators when another decorator is present and an alternative list otherwise."
  parameters :=
    [{ name := "condition",
       shape := .simple .text {},
       description := some "Decorator whose presence selects the `then` branch",
       required := true },
     { name := "then",
       shape := .withItems .list {} (.simple .text {}),
       description := some "Decorators applied when the condition holds",
       required := true },
     { name := "otherwise",
       shape := .withItems .list {} (.simple .text {}),
       description := some "Decorators applied when the condition does not hold" }]

end Catalog

end Decorate
