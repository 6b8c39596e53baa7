import PromptTemplate.Schema.Basic
/-!
# PromptTemplate — layers of instruction types

The instruction types of a template come in layers: those of the schemas
in the order in which they are extended, and on top those of the template
itself. The last definition of a name is the one in force, and every
definition that replaces another leaves a record.
-/

namespace PromptTemplate

/-- Why a definition replaces another one. -/
inductive OverrideKind
  /-- A later schema defines the name again. -/
  | extension
  /-- The template defines the name itself. -/
  | custom
deriving DecidableEq

/-- The name of a kind of replacement. -/
def OverrideKind.name : OverrideKind → String
  | .extension => "schema-extension"
  | .custom => "custom"

/-- The record of a definition that replaces another one. -/
structure Override where
  type : String
  /-- The source of the definition in force. -/
  winner : String
  /-- The source of the definition that was replaced. -/
  replaced : String
  kind : OverrideKind
deriving DecidableEq

/-- The wording of a replacement. -/
def Override.message (o : Override) : String :=
  s!"instruction type '{o.type}' from {o.winner} overrides definition from {o.replaced} " ++
    s!"({o.kind.name})"

/-- Instruction types of one source. -/
structure Layer where
  source : String
  kind : OverrideKind
  types : Table InstructionSpec

/-- The layer of a schema. -/
def Schema.layer (s : Schema) : Layer := ⟨s.url, .extension, s.types⟩

/-- The source of the types that a template defines itself. -/
def customSource : String := "custom"

/-- The layer of the types that a template defines itself. -/
def customLayer (types : Table InstructionSpec) : Layer := ⟨customSource, .custom, types⟩

/-- The instruction types in force, and the records of replacements. -/
structure Resolution where
  types : Table InstructionType
  overrides : List Override

namespace Resolution

/-- Nothing is defined. -/
def empty : Resolution := ⟨.nil, []⟩

/-- Defines a name. -/
def define (l : Layer) (r : Resolution) (entry : String × InstructionSpec) : Resolution :=
  let (name, spec) := entry
  let types := r.types.insert name ⟨spec, l.source⟩
  match r.types.find? name with
  | none => ⟨types, r.overrides⟩
  | some previous => ⟨types, r.overrides ++ [⟨name, l.source, previous.source, l.kind⟩]⟩

/-- Defines the names of a layer, in their order. -/
def addLayer (r : Resolution) (l : Layer) : Resolution := l.types.toList.foldl (define l) r

/-- The types in force above layers, of which a later one prevails. -/
def ofLayers (layers : List Layer) : Resolution := layers.foldl addLayer empty

/-- The types in force for a template: those of its schemas and its own. -/
def resolve (schemas : List Schema) (custom : Table InstructionSpec) : Resolution :=
  ofLayers (schemas.map Schema.layer ++ [customLayer custom])

/-- The wordings of the replacements. -/
def warnings (r : Resolution) : List String := r.overrides.map Override.message

end Resolution

end PromptTemplate
