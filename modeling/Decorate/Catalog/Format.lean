import Decorate.Catalog.Words

/-!
# Decorators of form and voice

Decorators that give the answer a form, a voice and a reader.
-/

namespace Decorate

namespace Catalog

def bullet : DefinitionRecord where
  name := "Bullet"
  version := "1.0.0"
  category := "structure"
  description := some "Formats the response as a bulleted list."
  parameters :=
    [{ name := "style",
       shape := .simple .enum { allowed := ["dash", "dot", "numbered"] },
       description := some "Bullet marker",
       default := some (.str "dash") }]
  template :=
    { instruction := "Format the response as a bulleted list.",
      mapping := .ofList
        [("style", .lookup (.ofList
          [("dash", "Use '-' as the bullet marker."),
           ("dot", "Use '•' as the bullet marker."),
           ("numbered", "Number the items instead of using bullet markers.")]))] }
  compatibility := { conflicts := ["Outline"] }

def outline : DefinitionRecord where
  name := "Outline"
  version := "1.0.0"
  category := "structure"
  description := some "Formats the response as a hierarchical outline."
  parameters :=
    [{ name := "depth",
       shape := .simple .number { range := wholeRange 1 5 },
       description := some "Maximum nesting depth",
       default := some (.num (.whole 3 (by decide))) }]
  template :=
    { instruction := "Structure the response as a hierarchical outline with headings and sub-points.",
      mapping := .ofList
        [("depth", .format ("Use at most " ++ valueSlot ++ " levels of nesting."))] }
  compatibility := { conflicts := ["Bullet"] }

def outputFormat : DefinitionRecord where
  name := "OutputFormat"
  version := "1.0.0"
  category := "format"
  description := some "Requests a specific output format."
  parameters :=
    [{ name := "format",
       shape := .simple .enum { allowed := ["json", "markdown", "yaml", "xml", "plaintext"] },
       description := some "Target format",
       required := true }]
  template :=
    { instruction := "",
      mapping := .ofList
        [("format", .lookup (.ofList
          [("json", "Format the entire response as valid JSON."),
           ("markdown", "Format the response as Markdown."),
           ("yaml", "Format the entire response as valid YAML."),
           ("xml", "Format the entire response as well-formed XML."),
           ("plaintext", "Respond in plain text without any markup.")]))],
      placement := .append,
      behavior := .override }

def tone : DefinitionRecord where
  name := "Tone"
  version := "1.0.0"
  category := "tone"
  description := some "Sets the voice of the response."
  parameters :=
    [{ name := "style",
       shape := .simple .enum { allowed := ["formal", "casual", "friendly", "technical", "humorous"] },
       description := some "Voice to adopt",
       required := true }]
  template :=
    { instruction := "Adopt a " ++ slot "style" ++ " tone throughout the response.",
      mapping := .ofList
        [("style", .format valueSlot)],
      behavior := .override }

def audience : DefinitionRecord where
  name := "Audience"
  version := "1.0.0"
  category := "tone"
  description := some "Pitches the response at a reader's level of expertise."
  parameters :=
    [{ name := "level",
       shape := .simple .enum { allowed := ["beginner", "intermediate", "expert"] },
       description := some "Reader expertise",
       default := some (.str "intermediate") }]
  template :=
    { instruction := "Tailor the response for readers at the " ++ slot "level" ++ " level.",
      mapping := .ofList
        [("level", .format valueSlot)] }

def summary : DefinitionRecord where
  name := "Summary"
  version := "1.0.0"
  category := "structure"
  description := some "Closes the response with a summary."
  parameters :=
    [{ name := "maxSentences",
       shape := .simple .number { range := wholeRange 1 10 },
       description := some "Upper bound on summary length" }]
  template :=
    { instruction := "End with a brief summary of the key points.",
      mapping := .ofList
        [("maxSentences", .format ("Keep the summary to " ++ valueSlot ++ " sentences or fewer."))],
      placement := .append }

end Catalog

end Decorate
