import Decorate.Catalog.Words

/-!
# Decorators of reasoning and style

Decorators that ask for reasoning, or set how learned and how long the
answer is.
-/

namespace Decorate

namespace Catalog

def reasoning : DefinitionRecord where
  name := "Reasoning"
  version := "1.0.0"
  category := "reasoning"
  description := some "Asks for explicit reasoning before the answer."
  parameters :=
    [{ name := "depth",
       shape := .simple .enum { allowed := ["basic", "moderate", "comprehensive"] },
       description := some "How much of the reasoning to show",
       default := some (.str "moderate") }]
  template :=
    { instruction :=
        "Please provide detailed reasoning in your response, showing how you reach each conclusion.",
      mapping := .ofList
        [("depth", .lookup (.ofList
          [("basic", "Focus on the most important logical steps."),
           ("moderate", "Cover the key steps and the assumptions behind them."),
           ("comprehensive", "Be exhaustive: walk through every step, assumption, and alternative you considered.")]))] }

def stepByStep : DefinitionRecord where
  name := "StepByStep"
  version := "1.0.0"
  category := "reasoning"
  description := some "Structures the answer as sequential steps."
  parameters :=
    [{ name := "numbered",
       shape := .simple .boolean {},
       description := some "Number each step",
       default := some (.bool true) }]
  template :=
    { instruction := "Break your response down into clear, sequential steps.",
      mapping := .ofList
        [("numbered", .lookup (.ofList
          [("true", "Number each step.")]))] }

def academic : DefinitionRecord where
  name := "Academic"
  version := "1.0.0"
  category := "tone"
  description := some "Scholarly register with precise terminology."
  parameters :=
    [{ name := "style",
       shape := .simple .enum { allowed := ["scientific", "humanities", "legal"] },
       description := some "Academic discipline to imitate",
       default := some (.str "scientific") }]
  template :=
    { instruction := "Respond in an academic register with precise terminology.",
      mapping := .ofList
        [("style", .lookup (.ofList
          [("scientific", "Follow the conventions of scientific writing and cite evidence where possible."),
           ("humanities", "Follow the conventions of humanities scholarship, engaging with interpretation and context."),
           ("legal", "Follow the conventions of legal analysis, stating rules before applying them.")]))] }
  compatibility := { conflicts := ["ELI5"] }

def eli5 : DefinitionRecord where
  name := "ELI5"
  version := "1.0.0"
  category := "tone"
  description := some "Explains as if to a five-year-old."
  template :=
    { instruction :=
        "Explain this as you would to a five-year-old, using simple words and everyday examples." }
  compatibility := { conflicts := ["Academic"] }

def concise : DefinitionRecord where
  name := "Concise"
  version := "1.0.0"
  category := "verbosity"
  description := some "Keeps the response short."
  parameters :=
    [{ name := "maxWords",
       shape := .simple .number { range := wholeRange 10 1000 },
       description := some "Upper bound on the response length in words" }]
  template :=
    { instruction := "Keep the response brief and to the point.",
      mapping := .ofList
        [("maxWords", .format ("Use at most " ++ valueSlot ++ " words."))] }
  compatibility := { conflicts := ["Detailed"] }

def detailed : DefinitionRecord where
  name := "Detailed"
  version := "1.0.0"
  category := "verbosity"
  description := some "Asks for a thorough, in-depth response."
  parameters :=
    [{ name := "examples",
       shape := .simple .boolean {},
       description := some "Include worked examples",
       default := some (.bool false) }]
  template :=
    { instruction := "Provide a thorough, detailed response that covers the topic in depth.",
      mapping := .ofList
        [("examples", .lookup (.ofList
          [("true", "Include concrete examples.")]))] }
  compatibility := { conflicts := ["Concise"] }

end Catalog

end Decorate
