import PromptTemplate.Compile.Assembly
import PromptTemplate.Interpolation.Substitute
import PromptTemplate.Schema.Layers
import PromptTemplate.Schema.Loader
import PromptTemplate.Template.Decode
import PromptTemplate.Vetting.Document
/-!
# PromptTemplate — compiling templates

A document is compiled in stages, and the first failure ends it. Before
any schema is loaded the document and the supplied variables are vetted
and the template is decoded (`prepare`); once the schemas are there, the
references are substituted, the conditionals pruned and the prompt is
assembled (`finish`). `compile` is the two with the loading of schemas
between, which alone changes the shelf.
-/

namespace PromptTemplate

/-- A template that has been compiled. -/
structure Compiled where
  prompt : String
  /-- The template as it was decoded. -/
  template : Template
  /-- The variables in force. -/
  vars : Table Value
  overrides : List Override

/-- The warnings about a compilation: one for every replaced instruction
type. -/
def Compiled.warnings (c : Compiled) : List String := c.overrides.map Override.message

namespace Compile

/-- The variables in force: the supplied ones over the declared ones. -/
def variablesInForce (declared : Table Value) (supplied : Option (Table Value)) : Table Value :=
  declared.override (supplied.getD .nil)

/-- Turns a violation into a fault. -/
def vetted {α : Type} (outcome : Except Violation α) : Except Fault α :=
  outcome.mapError .security

/-- Vets a document, decodes its template and vets the supplied
variables. -/
def prepare (p : Policy) (base : Option String) (doc : Value)
    (supplied : Option (Table Value)) : Except Fault (Template × Table Value) := do
  vetted (Vetting.checkDocument p base doc)
  let template ← Template.decode doc
  match supplied with
  | none => pure ()
  | some vars => vetted (Vetting.checkVariables p vars)
  return (template, variablesInForce template.vars supplied)

/-- Makes the prompt of a template under the variables in force, from the
schemas that it extends. -/
def finish (p : Policy) (template : Template) (vars : Table Value)
    (schemas : List Schema) : Except Fault Compiled := do
  let resolution := Resolution.resolve schemas template.customTypes
  let elements ←
    (Interpolation.substituteElements vars template.content).mapError .unresolved
  let pieces ← prune p vars elements
  let prompt ← assemble resolution.types template.layout pieces
  return ⟨prompt, template, vars, resolution.overrides⟩

/-- Compiles a document, whose schemas are relative to a base. Where loading
them breaks off, only the shelf counts. -/
def compile (p : Policy) (source : Schema.Source) (base : Option String) (doc : Value)
    (supplied : Option (Table Value)) (shelf : Schema.Shelf) :
    Except Fault Compiled × Schema.Shelf :=
  match prepare p base doc supplied with
  | .error fault => (.error fault, shelf)
  | .ok (template, vars) =>
    match Schema.loadAll p source base template.extensions shelf with
    | (.error fault, shelf) => (.error fault, shelf)
    | (.ok schemas, shelf) => (finish p template vars schemas, shelf)

end Compile

end PromptTemplate
