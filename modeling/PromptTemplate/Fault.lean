import PromptTemplate.Text.Search
/-!
# PromptTemplate — faults

What can go wrong on the way from a template to a prompt, as one type for
all stages: a security violation, a list of structural errors, a failed
stage of compilation, a reference or condition without a value, a schema
that cannot be had, or a mistake of the user. Each fault has one wording
and one exit code.
-/

namespace PromptTemplate

/-- The sorts of security violations. -/
inductive ViolationKind
  /-- The template has too many bytes. -/
  | templateTooLarge
  /-- The template has too many content elements. -/
  | tooManyElements
  /-- Conditionals or variables nest too deep. -/
  | nestingTooDeep
  /-- A text matches a blocked pattern. -/
  | maliciousContent
  /-- A condition has too many characters. -/
  | expressionTooLong
  /-- A condition matches a blocked pattern. -/
  | maliciousExpression
  /-- A variable would replace the inner workings of objects. -/
  | prototypePollution
  /-- A variable has a name that is not allowed. -/
  | unsafeVariableName
  /-- An array of variables has too many items. -/
  | arrayTooLarge
  /-- An address is not allowed. -/
  | urlRejected
  /-- The document cannot be inspected. -/
  | invalidDocument
deriving DecidableEq

/-- The identifier of a sort of violations. -/
def ViolationKind.name : ViolationKind → String
  | .templateTooLarge => "template_too_large"
  | .tooManyElements => "too_many_elements"
  | .nestingTooDeep => "nesting_too_deep"
  | .maliciousContent => "malicious_content"
  | .expressionTooLong => "expression_too_long"
  | .maliciousExpression => "malicious_expression"
  | .prototypePollution => "prototype_pollution"
  | .unsafeVariableName => "unsafe_variable_name"
  | .arrayTooLarge => "array_too_large"
  | .urlRejected => "url_rejected"
  | .invalidDocument => "invalid_document"

/-- A security violation, with the text that caused it where one did. -/
structure Violation where
  kind : ViolationKind
  detail : String
  offending : Option String
deriving DecidableEq

namespace Violation

/-- How many characters of an offending text are kept. -/
def maxOffending : Nat := 100

/-- A violation that no single text caused. -/
def plain (kind : ViolationKind) (detail : String) : Violation := ⟨kind, detail, none⟩

/-- A violation caused by a text, of which the front is kept. -/
def because (kind : ViolationKind) (detail offending : String) : Violation :=
  ⟨kind, detail, some (Text.truncated maxOffending "..." offending)⟩

/-- The wording of a violation. -/
def message (v : Violation) : String :=
  s!"{v.detail} ({v.kind.name})" ++
    match v.offending with
    | some text => s!": '{text}'"
    | none => ""

end Violation

/-- A reference that has no value: its path as written, the reason, and the
keys that stood where it ended. -/
structure Unresolved where
  path : String
  reason : String
  available : List String
deriving DecidableEq

/-- The wording of an unresolved reference. -/
def Unresolved.message (u : Unresolved) : String :=
  s!"cannot resolve variable '{u.path}': {u.reason}" ++
    if u.available.isEmpty then ""
    else " (available: " ++ Text.join ", " u.available ++ ")"

/-- A condition that has no value, with the reason. -/
structure BadCondition where
  source : String
  reason : String
deriving DecidableEq

/-- The wording of a condition without a value. -/
def BadCondition.message (b : BadCondition) : String :=
  s!"failed to evaluate expression '{b.source}': {b.reason}"

/-- The stages of a compilation. -/
inductive Stage
  | decoding | schemaResolution | variableSubstitution | conditionalEvaluation | promptAssembly
deriving DecidableEq

/-- The name of a stage. -/
def Stage.name : Stage → String
  | .decoding => "decoding"
  | .schemaResolution => "schema resolution"
  | .variableSubstitution => "variable substitution"
  | .conditionalEvaluation => "conditional evaluation"
  | .promptAssembly => "prompt assembly"

/-- Which content element a failure belongs to: its position in the
sequence at hand, its identifier and the name of its type. -/
structure ElementRef where
  position : Nat
  id : Option String
  type : String
deriving DecidableEq

/-- The wording of an element in messages. -/
def ElementRef.describe (e : ElementRef) : String :=
  s!"{e.type} element #{e.position}" ++
    match e.id with
    | some id => s!" (id '{id}')"
    | none => ""

/-- What can go wrong between a template and its prompt. -/
inductive Fault
  | security (v : Violation)
  | validation (errors : List String)
  | compilation (stage : Stage) (detail : String) (element : Option ElementRef)
  | unresolved (u : Unresolved)
  | condition (b : BadCondition)
  | schema (url reason : String)
  | user (text : String)
  /-- Validation failed, and the report has been shown already. -/
  | reported (issues : Nat)
deriving DecidableEq

namespace Fault

/-- The wording of a fault. -/
def message : Fault → String
  | .security v => s!"Security violation: {v.message}"
  | .validation errors => "Template validation failed: " ++ Text.join "; " errors
  | .compilation stage detail element =>
    let place := match element with
      | some e => s!" at {e.describe}"
      | none => ""
    s!"Compilation failed during {stage.name}{place}: {detail}"
  | .unresolved u => u.message
  | .condition b => b.message
  | .schema url reason => s!"Failed to load schema '{url}': {reason}"
  | .user text => text
  | .reported issues => s!"Template validation failed with {issues} issue(s)"

/-- The exit code of a run that ends in a fault: one for mistakes of the
user, two for failed validation, three for security violations and four
for failed compilation. -/
def exitCode : Fault → Nat
  | .user _ => 1
  | .validation _ => 2
  | .reported _ => 2
  | .security _ => 3
  | .compilation .. => 4
  | .unresolved _ => 4
  | .condition _ => 4
  | .schema .. => 4

/-- Whether the user has been told already. -/
def isReported : Fault → Bool
  | .reported _ => true
  | _ => false

end Fault

end PromptTemplate
