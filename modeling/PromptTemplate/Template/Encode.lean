import PromptTemplate.Template.Basic
/-!
# PromptTemplate — templates as documents

The document form of a template: every field that is set, under its own
name. An optional field that is missing and a collection that is empty are
left out; the layout always stands there.
-/

namespace PromptTemplate

/-- The object of the fields that are there. -/
def Value.ofFields (fields : List (String × Option Value)) : Value :=
  .object (Table.ofList (fields.filterMap fun (key, v) => v.map fun w => (key, w)))

/-- An array of strings. -/
def Value.ofStrings (texts : List String) : Value := .array (texts.map .string)

/-- The document of an instruction type. -/
def InstructionSpec.toValue (s : InstructionSpec) : Value :=
  .ofFields [("template", some (.string s.template)),
    ("description", s.description.map .string), ("configSchema", s.configSchema)]

/-- The document of an instruction type with its source. -/
def InstructionType.toValue (t : InstructionType) : Value :=
  .ofFields [("template", some (.string t.spec.template)),
    ("description", t.spec.description.map .string), ("configSchema", t.spec.configSchema),
    ("source", some (.string t.source))]

/-- The document of a layout. -/
def Layout.toValue (l : Layout) : Value :=
  .ofFields [("systemPrompt", l.systemPrompt.map .string),
    ("userContentWrapper", l.userContentWrapper.map .string),
    ("instructionWrapper", l.instructionWrapper.map .string),
    ("processingInstructions", l.processingInstructions.map .ofStrings)]

namespace Element

mutual

/-- The document of a content element. -/
def toValue : Element → Value
  | .text name body =>
    .ofFields [("type", some (.string "text")), ("id", name.map .string),
      ("text", some (.string body))]
  | .placeholder name type config =>
    .ofFields [("type", some (.string "placeholder")), ("id", name.map .string),
      ("instructionType", some (.string type)), ("config", some (.object config))]
  | .conditional name condition content otherwise =>
    .ofFields [("type", some (.string "conditional")), ("id", name.map .string),
      ("condition", some (.string condition)), ("content", some (.array (toValues content))),
      ("else", toBranch otherwise)]

/-- The documents of content elements. -/
def toValues : List Element → List Value
  | [] => []
  | e :: es => toValue e :: toValues es

/-- The document of a branch, if there is one. -/
def toBranch : Option (List Element) → Option Value
  | none => none
  | some es => some (.array (toValues es))

end

end Element

/-- A table as an object, if it is not empty. -/
def Value.ofTable (t : Table Value) : Option Value := if t.isEmpty then none else some (.object t)

/-- The document of a template. -/
def Template.toValue (t : Template) : Value :=
  .ofFields [("version", some (.string t.version)),
    ("description", t.description.map .string),
    ("extends", if t.extensions.isEmpty then none else some (.ofStrings t.extensions)),
    ("variables", Value.ofTable t.vars),
    ("customInstructionTypes", Value.ofTable (t.customTypes.map InstructionSpec.toValue)),
    ("content", some (.array (Element.toValues t.content))),
    ("compilerConfig", some t.layout.toValue)]

end PromptTemplate
