import PromptTemplate.Template.Structure
import PromptTemplate.Fault
/-!
# PromptTemplate — templates from documents

A document of the right structure stands for a template. `ofValue?` reads
the template off the document and ignores the fields it does not know;
`decode` first asks for the structure and reports all of its errors.
-/

namespace PromptTemplate

/-- A field that is missing or read by a reader. -/
def Value.optional? {α : Type} (v : Value) (key : String) (read : Value → Option α) :
    Option (Option α) :=
  match v.field? key with
  | none => some none
  | some w => (read w).map some

/-- A field that is there and read by a reader. -/
def Value.required? {α : Type} (v : Value) (key : String) (read : Value → Option α) : Option α :=
  (v.field? key).bind read

/-- The strings of an array that holds nothing else. -/
def Value.strings? (v : Value) : Option (List String) := v.array?.bind (·.mapM string?)

namespace InstructionSpec

/-- The instruction type that a document declares. -/
def ofValue? (v : Value) : Option InstructionSpec := do
  let template ← v.required? "template" Value.string?
  let description ← v.optional? "description" Value.string?
  return ⟨template, description, v.field? "configSchema"⟩

end InstructionSpec

/-- Reads every value of a table; none if one of them cannot be read. -/
def Entries.mapM? {α β : Type} (read : α → Option β) :
    {lo : Option String} → Entries α lo → Option (Entries β lo)
  | _, .nil => some .nil
  | _, .cons k h v rest => do
    let w ← read v
    let rest' ← rest.mapM? read
    return .cons k h w rest'

namespace Layout

/-- The layout that a document describes, which is an object. -/
def ofValue? (v : Value) : Option Layout := do
  let _ ← v.object?
  let systemPrompt ← v.optional? "systemPrompt" Value.string?
  let userContentWrapper ← v.optional? "userContentWrapper" Value.string?
  let instructionWrapper ← v.optional? "instructionWrapper" Value.string?
  let processingInstructions ← v.optional? "processingInstructions" Value.strings?
  return ⟨systemPrompt, userContentWrapper, instructionWrapper, processingInstructions⟩

end Layout

namespace Element

mutual

/-- The content element that a document describes. -/
def ofValue? (v : Value) : Option Element :=
  match v.optional? "id" Value.string?, v.required? "type" Value.string? with
  | some id, some "text" => (v.required? "text" Value.string?).map (.text id)
  | some id, some "placeholder" => do
    let type ← v.required? "instructionType" Value.string?
    let config ← v.required? "config" Value.object?
    return .placeholder id type config
  | some id, some "conditional" =>
    match v.required? "condition" Value.string?, _content : v.branch? "content" with
    | some condition, some items =>
      match ofValues? items with
      | none => none
      | some content =>
        match _otherwise : v.branch? "else" with
        | some others =>
          (ofValues? others).map fun es => .conditional id condition content (some es)
        | none =>
          if (v.field? "else").isNone then some (.conditional id condition content none)
          else none
    | _, _ => none
  | _, _ => none
termination_by sizeOf v
decreasing_by
  · exact Value.sizeOf_branch?_lt _content
  · exact Value.sizeOf_branch?_lt _otherwise

/-- The content elements that a list of documents describes. -/
def ofValues? (items : List Value) : Option (List Element) :=
  match items with
  | [] => some []
  | v :: rest => do
    let e ← ofValue? v
    let es ← ofValues? rest
    return e :: es
termination_by sizeOf items

end

end Element

namespace Template

/-- The template that a document describes. -/
def ofValue? (doc : Value) : Option Template := do
  let version ← doc.required? "version" Value.string?
  let description ← doc.optional? "description" Value.string?
  let extensions ← doc.optional? "extends" Value.strings?
  let vars ← doc.optional? "variables" Value.object?
  let customTypes ← doc.optional? "customInstructionTypes" fun v =>
    v.object?.bind (Entries.mapM? InstructionSpec.ofValue?)
  let items ← doc.required? "content" Value.array?
  let content ← Element.ofValues? items
  let layout ← doc.optional? "compilerConfig" Layout.ofValue?
  return ⟨version, description, extensions.getD [], vars.getD .nil, customTypes.getD .nil,
    content, layout.getD .default⟩

/-- The template of a document, or all errors of its structure. -/
def decode (doc : Value) : Except Fault Template :=
  match structureErrors doc with
  | [] =>
    match ofValue? doc with
    | some t => .ok t
    | none => .error (.compilation .decoding "failed to decode template" none)
  | errors => .error (.validation errors)

end Template

end PromptTemplate
