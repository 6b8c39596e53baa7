import PromptTemplate.Template.Basic
import PromptTemplate.Text.Blank
import PromptTemplate.Text.Search
/-!
# PromptTemplate — the structure of template documents

A document has the structure of a template if the fields that compilation
relies on are there and have the right types. `structureErrors` lists
everything that is wrong, each with the place of the field in front, and
never stops early; a document without errors is well formed.
-/

namespace PromptTemplate

namespace Template

/-- An error, if a test fails. -/
def unlessThat (test : Bool) (error : String) : List String := if test then [] else [error]

/-- Whether a value is a string. -/
def isString (v : Value) : Bool := v.string?.isSome

/-- Whether a value is an object. -/
def isObject (v : Value) : Bool := v.object?.isSome

/-- Whether a value is an array of strings. -/
def isTexts : Value → Bool
  | .array items => items.all isString
  | _ => false

/-- Whether a field is missing or passes a test. -/
def orNothing (v : Value) (key : String) (test : Value → Bool) : Bool :=
  match v.field? key with
  | none => true
  | some w => test w

/-- Whether a field holds a string that is not all blank. -/
def hasProperText (v : Value) (key : String) : Bool :=
  match v.field? key with
  | some (.string s) => !Text.isAllBlank s
  | _ => false

/-- Whether a field holds a string. -/
def hasText (v : Value) (key : String) : Bool :=
  match v.field? key with
  | some (.string _) => true
  | _ => false

/-- The errors of the version. -/
def versionErrors (doc : Value) : List String :=
  match doc.field? "version" with
  | none => ["missing required field 'version'"]
  | some (.string s) => unlessThat (!Text.isAllBlank s) "'version' must not be empty"
  | some _ => ["'version' must be a string"]

/-- The errors of the list of schemas. -/
def extensionErrors (doc : Value) : List String :=
  match doc.field? "extends" with
  | none => []
  | some (.array urls) =>
    urls.zipIdx.flatMap fun (url, i) =>
      unlessThat (isString url) s!"extends[{i}] must be a string URL"
  | some _ => ["'extends' must be an array of URLs"]

/-- The errors of one instruction type of the template's own. -/
def customTypeErrors (name : String) (definition : Value) : List String :=
  let place := s!"customInstructionTypes.{name}"
  match definition with
  | .object _ =>
    unlessThat (hasText definition "template") s!"{place} requires a string 'template'" ++
    unlessThat (orNothing definition "description" isString)
      s!"{place}.description must be a string" ++
    unlessThat (orNothing definition "configSchema" isObject)
      s!"{place}.configSchema must be an object"
  | _ => [s!"{place} must be an object"]

/-- The errors of the template's own instruction types. -/
def customTypesErrors (doc : Value) : List String :=
  match doc.field? "customInstructionTypes" with
  | none => []
  | some (.object types) => types.toList.flatMap fun (name, d) => customTypeErrors name d
  | some _ => ["'customInstructionTypes' must be an object"]

/-- The fields of a layout that hold one text. -/
def layoutTexts : List String := ["systemPrompt", "userContentWrapper", "instructionWrapper"]

/-- Whether the wrapper of instructions has a slot for one, if there is a
wrapper. -/
def hasSlot (layout : Value) : Bool :=
  match layout.field? "instructionWrapper" with
  | some (.string wrapper) => Text.contains wrapper Layout.instructionSlot
  | _ => true

/-- The errors of the layout. -/
def layoutErrors (doc : Value) : List String :=
  match doc.field? "compilerConfig" with
  | none => []
  | some (.object config) =>
    let layout := Value.object config
    (layoutTexts.flatMap fun key =>
      unlessThat (orNothing layout key isString) s!"compilerConfig.{key} must be a string") ++
    unlessThat (hasSlot layout)
      "compilerConfig.instructionWrapper must contain '\x7binstruction\x7d'" ++
    unlessThat (orNothing layout "processingInstructions" isTexts)
      "compilerConfig.processingInstructions must be an array of strings"
  | some _ => ["'compilerConfig' must be an object"]

/-- The errors of the configuration of a placeholder. -/
def configErrors (v : Value) (place : String) : List String :=
  match v.field? "config" with
  | none => [s!"{place}: placeholder requires 'config'"]
  | some (.object config) =>
    match config.find? "description" with
    | none => [s!"{place}: placeholder config requires 'description'"]
    | some d => unlessThat (isString d) s!"{place}.config.description must be a string"
  | some _ => [s!"{place}.config must be an object"]

/-- The errors of a placeholder but for its identifier. -/
def placeholderErrors (v : Value) (place : String) : List String :=
  unlessThat (hasProperText v "instructionType")
    s!"{place}: placeholder requires a non-empty string 'instructionType'" ++
  configErrors v place

/-- The names of the types of elements, as messages list them. -/
def elementTypes : String := "text, placeholder, conditional"

mutual

/-- The errors of a content element at a place. -/
def elementErrors (v : Value) (place : String) : List String :=
  match v with
  | .object fields =>
    let v := Value.object fields
    unlessThat (orNothing v "id" isString) s!"{place}.id must be a string" ++
    match v.field? "type" with
    | none => [s!"{place} is missing 'type'"]
    | some (.string "text") =>
      unlessThat (hasText v "text") s!"{place}: text element requires a string 'text'"
    | some (.string "placeholder") => placeholderErrors v place
    | some (.string "conditional") =>
      unlessThat (hasProperText v "condition")
        s!"{place}: conditional requires a non-empty string 'condition'" ++
      (match _content : v.branch? "content" with
        | some items => itemErrors items s!"{place}.content" 0
        | none => [s!"{place}: conditional requires a 'content' array"]) ++
      (match _otherwise : v.branch? "else" with
        | some items => itemErrors items s!"{place}.else" 0
        | none => unlessThat (v.field? "else").isNone s!"{place}.else must be an array")
    | some (.string other) =>
      [s!"{place}: unknown element type '{other}' (expected one of: {elementTypes})"]
    | some _ => [s!"{place}.type must be a string"]
  | _ => [s!"{place} must be an object"]
termination_by sizeOf v
decreasing_by
  · exact Value.sizeOf_branch?_lt _content
  · exact Value.sizeOf_branch?_lt _otherwise

/-- The errors of a sequence of content elements at a place, of which the
first one has the given position. -/
def itemErrors (items : List Value) (place : String) (position : Nat) : List String :=
  match items with
  | [] => []
  | v :: rest => elementErrors v s!"{place}[{position}]" ++ itemErrors rest place (position + 1)
termination_by sizeOf items

end

/-- The errors of the content. -/
def contentErrors (doc : Value) : List String :=
  match doc.field? "content" with
  | none => ["missing required field 'content'"]
  | some (.array []) => ["'content' must contain at least one element"]
  | some (.array items) => itemErrors items "content" 0
  | some _ => ["'content' must be an array"]

/-- Everything that is wrong with the structure of a document. -/
def structureErrors (doc : Value) : List String :=
  match doc with
  | .object _ =>
    versionErrors doc ++
    unlessThat (orNothing doc "description" isString) "'description' must be a string" ++
    extensionErrors doc ++
    unlessThat (orNothing doc "variables" isObject) "'variables' must be an object" ++
    customTypesErrors doc ++
    layoutErrors doc ++
    contentErrors doc
  | _ => ["template must be a JSON object"]

end Template

end PromptTemplate
