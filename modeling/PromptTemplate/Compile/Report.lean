import PromptTemplate.Compile.Pipeline
import PromptTemplate.Interpolation.References
/-!
# PromptTemplate — reports on templates

A report lists everything that is wrong with a document, without compiling
it: security violations, structural errors, schemas that cannot be loaded,
unknown instruction types, references without a value and conditions that
cannot be read. A document with structural errors is not looked at
further, and unknown types are only reported where every schema is there.
-/

namespace PromptTemplate

/-- What has been found in a document. -/
structure Report where
  errors : List String
  warnings : List String
  securityIssues : List String
deriving DecidableEq

/-- Whether nothing is wrong. -/
def Report.isValid (r : Report) : Bool := r.errors.isEmpty && r.securityIssues.isEmpty

namespace Report

/-- The place of an element in a sequence. -/
def placeOf (sequence : String) (position : Nat) : String := s!"{sequence}[{position}]"

mutual

/-- The unknown instruction types of an element at a place. -/
def unknownTypesAt (types : Table InstructionType) (place : String) : Element → List String
  | .text .. => []
  | .placeholder _ type _ =>
    if types.contains type then [] else [s!"{place}: unknown instruction type '{type}'"]
  | .conditional _ _ content otherwise =>
    unknownTypesFrom types (place ++ ".content") 0 content ++
      unknownTypesIn types (place ++ ".else") otherwise

/-- The unknown instruction types of elements, of which the first has a
position. -/
def unknownTypesFrom (types : Table InstructionType) (sequence : String) (position : Nat) :
    List Element → List String
  | [] => []
  | e :: es =>
    unknownTypesAt types (placeOf sequence position) e ++
      unknownTypesFrom types sequence (position + 1) es

/-- The unknown instruction types of a branch, if there is one. -/
def unknownTypesIn (types : Table InstructionType) (sequence : String) :
    Option (List Element) → List String
  | none => []
  | some es => unknownTypesFrom types sequence 0 es

end

/-- The message about a condition that cannot be read once its references
are substituted; references without a value are reported elsewhere. -/
def conditionErrors (vars : Table Value) (place condition : String) : List String :=
  match Interpolation.substituteCondition vars condition with
  | .error _ => []
  | .ok substituted =>
    match Condition.read substituted with
    | .ok _ => []
    | .error b => [s!"{place}.condition: {b.message}"]

mutual

/-- The messages about conditions of an element at a place. -/
def badConditionsAt (vars : Table Value) (place : String) : Element → List String
  | .text .. => []
  | .placeholder .. => []
  | .conditional _ condition content otherwise =>
    conditionErrors vars place condition ++
      (badConditionsFrom vars (place ++ ".content") 0 content ++
        badConditionsIn vars (place ++ ".else") otherwise)

/-- The messages about conditions of elements, of which the first has a
position. -/
def badConditionsFrom (vars : Table Value) (sequence : String) (position : Nat) :
    List Element → List String
  | [] => []
  | e :: es =>
    badConditionsAt vars (placeOf sequence position) e ++
      badConditionsFrom vars sequence (position + 1) es

/-- The messages about conditions of a branch, if there is one. -/
def badConditionsIn (vars : Table Value) (sequence : String) :
    Option (List Element) → List String
  | none => []
  | some es => badConditionsFrom vars sequence 0 es

end

/-- The schemas among outcomes of loading. -/
def loaded (outcomes : List (Except Fault Schema)) : List Schema :=
  outcomes.filterMap Except.toOption

/-- The security issue of an outcome of loading. -/
def issueOf : Except Fault Schema → Option String
  | .error (.security v) => some v.message
  | _ => none

/-- The error of an outcome of loading that is no security issue. -/
def errorOf : Except Fault Schema → Option String
  | .error (.security _) => none
  | .error fault => some fault.message
  | .ok _ => none

/-- The report on a template, from the issues found so far and the
outcomes of loading its schemas. -/
def ofTemplate (template : Template) (issues : List String)
    (outcomes : List (Except Fault Schema)) : Report :=
  let schemas := loaded outcomes
  let resolution := Resolution.resolve schemas template.customTypes
  let unknown := if schemas.length = outcomes.length then
    unknownTypesFrom resolution.types "content" 0 template.content else []
  { errors := outcomes.filterMap errorOf ++ unknown ++
      Interpolation.referenceErrors template.vars template.content ++
      badConditionsFrom template.vars "content" 0 template.content
    warnings := resolution.warnings
    securityIssues := issues ++ outcomes.filterMap issueOf }

end Report

namespace Compile

/-- The security issues of a document as a whole. -/
def documentIssues (p : Policy) (base : Option String) (doc : Value) : List String :=
  match Vetting.checkDocument p base doc with
  | .ok () => []
  | .error v => [v.message]

/-- Reports on a document, whose schemas are relative to a base. Where loading
them breaks off, only the shelf counts. -/
def validate (p : Policy) (source : Schema.Source) (base : Option String) (doc : Value)
    (shelf : Schema.Shelf) : Report × Schema.Shelf :=
  let issues := documentIssues p base doc
  match Template.structureErrors doc with
  | [] =>
    match Template.decode doc with
    | .error fault => (⟨[fault.message], [], issues⟩, shelf)
    | .ok template =>
      let (outcomes, shelf) := Schema.loadEach p source base template.extensions shelf
      (Report.ofTemplate template issues outcomes, shelf)
  | errors => (⟨errors, [], issues⟩, shelf)

end Compile

end PromptTemplate
