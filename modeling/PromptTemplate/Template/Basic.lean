import PromptTemplate.Value
/-!
# PromptTemplate — templates

A template is a sequence of content elements: literal text, placeholders
that ask for generated text, and conditionals with two branches. Around
the sequence stand the variables it declares, the schemas it extends, its
own instruction types, and the layout of the prompt.
-/

namespace PromptTemplate

/-- One element of the content of a template. -/
inductive Element
  /-- Literal text, with references to variables in it. -/
  | text (id : Option String) (text : String)
  /-- An instruction, made from a named instruction type. -/
  | placeholder (id : Option String) (type : String) (config : Table Value)
  /-- Content that is kept if a condition holds, and what stands there if
  it does not. -/
  | conditional (id : Option String) (condition : String) (content : List Element)
      (otherwise : Option (List Element))

namespace Element

/-- The name of the type of an element. -/
def typeName : Element → String
  | .text .. => "text"
  | .placeholder .. => "placeholder"
  | .conditional .. => "conditional"

/-- The identifier of an element. -/
def id : Element → Option String
  | .text id _ => id
  | .placeholder id _ _ => id
  | .conditional id _ _ _ => id

end Element

/-- How the prompt is laid out; what is missing takes a default. -/
structure Layout where
  systemPrompt : Option String
  userContentWrapper : Option String
  instructionWrapper : Option String
  processingInstructions : Option (List String)

namespace Layout

/-- The layout that leaves everything to the defaults. -/
def default : Layout := ⟨none, none, none, none⟩

/-- The slot of a wrapper that the instruction fills. -/
def instructionSlot : String := "\x7binstruction\x7d"

/-- The slot of a wrapper that content of the user fills. -/
def contentSlot : String := "\x7bcontent\x7d"

/-- The wrapper of instructions where the template has none. -/
def defaultInstructionWrapper : String := "<<" ++ instructionSlot ++ ">>"

/-- The wrapper of user content where the template has none. -/
def defaultUserContentWrapper : String := "([\x7b<" ++ contentSlot ++ ">\x7d])"

/-- The introduction where the template has none. -/
def defaultSystemPrompt : String :=
  "You are an AI assistant that fills in content templates. " ++
  "Follow the instructions exactly and replace each placeholder with appropriate content " ++
  "based on the user prompts provided. Respond only with the transformed content."

/-- The introduction of the prompt. -/
def introduction (l : Layout) : String := l.systemPrompt.getD defaultSystemPrompt

/-- What instructions are wrapped in. -/
def instructionFrame (l : Layout) : String := l.instructionWrapper.getD defaultInstructionWrapper

/-- What content of the user is wrapped in. -/
def userContentFrame (l : Layout) : String := l.userContentWrapper.getD defaultUserContentWrapper

end Layout

/-- An instruction type as it is declared: a text with slots, and notes
about its use. -/
structure InstructionSpec where
  template : String
  description : Option String
  configSchema : Option Value

/-- An instruction type together with the place it comes from: the address
of a schema, or the template itself. -/
structure InstructionType where
  spec : InstructionSpec
  source : String

/-- A template. -/
structure Template where
  version : String
  description : Option String
  /-- The addresses of the schemas, of which a later one prevails. -/
  extensions : List String
  vars : Table Value
  customTypes : Table InstructionSpec
  content : List Element
  layout : Layout

end PromptTemplate
