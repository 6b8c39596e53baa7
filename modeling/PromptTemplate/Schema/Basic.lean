import PromptTemplate.Template.Basic
import PromptTemplate.Number.Basic
/-!
# PromptTemplate — schemas

A schema is a document under an address that declares instruction types.
`Schema.ofBody` reads one: it must be an object whose `instructionTypes`
are objects with a string `template`; what else it holds is ignored. The
first type that is not well formed, in the order of names, is the defect.
-/

namespace PromptTemplate

/-- A schema: the address it was loaded from, and the instruction types it
declares. -/
structure Schema where
  url : String
  types : Table InstructionSpec

namespace Schema

/-- What is wrong with the body of a schema. -/
inductive Defect
  | notObject
  | noTypes
  | typesNotObject
  | typeNotObject (name : String)
  | noTemplate (name : String)
  | badDescription (name : String) (found : Value)

/-- What a value is, where a string is wanted. -/
def describeValue : Value → String
  | .bool true => "boolean `true`"
  | .bool false => "boolean `false`"
  | .number (.integer n _) => s!"integer `{n}`"
  | .number (.double d) => s!"floating point `{d.positionalText}`"
  | .array _ => "sequence"
  | .object _ => "map"
  | .string _ => "string"
  | .null => "null"

/-- The wording of a defect. -/
def Defect.message : Defect → String
  | .notObject => "schema must be a JSON object"
  | .noTypes => "schema has no 'instructionTypes'"
  | .typesNotObject => "'instructionTypes' must be an object"
  | .typeNotObject name => s!"instruction type '{name}' must be an object"
  | .noTemplate name => s!"instruction type '{name}' must have a string 'template'"
  | .badDescription name found =>
    s!"instruction type '{name}': invalid type: {describeValue found}, expected a string"

/-- A field that is there and not null. -/
def given? (v : Value) (key : String) : Option Value :=
  match v.field? key with
  | some .null => none
  | field => field

/-- Reads one instruction type. -/
def typeOf (name : String) (definition : Value) : Except Defect InstructionSpec :=
  match definition.object?, (definition.field? "template").bind Value.string? with
  | none, _ => .error (.typeNotObject name)
  | some _, none => .error (.noTemplate name)
  | some _, some template =>
    match given? definition "description" with
    | none => .ok ⟨template, none, given? definition "configSchema"⟩
    | some (.string description) =>
      .ok ⟨template, some description, given? definition "configSchema"⟩
    | some found => .error (.badDescription name found)

/-- Reads the body of the schema under an address. -/
def ofBody (url : String) (body : Value) : Except Defect Schema :=
  match body with
  | .object fields =>
    match fields.find? "instructionTypes" with
    | some (.object types) => (types.mapE typeOf).map (Schema.mk url)
    | some _ => .error .typesNotObject
    | none => .error .noTypes
  | _ => .error .notObject

end Schema

end PromptTemplate
