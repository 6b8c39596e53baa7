import PromptTemplate.Pattern.DenyList
import PromptTemplate.Policy.Basic
/-!
# PromptTemplate — vetting texts and conditions

A text passes unless a blocked pattern occurs in it. A condition passes if
it is not too long and none of the patterns blocked in conditions occurs
in it.
-/

namespace PromptTemplate

namespace Vetting

/-- Passes a text, or names the first blocked pattern in it. -/
def checkText (text : String) : Except Violation Unit :=
  match DenyList.text.find? text with
  | some pattern =>
    .error (.because .maliciousContent s!"content matches blocked pattern '{pattern}'" text)
  | none => .ok ()

/-- Passes a condition, or says that it is too long or what is blocked in
it. -/
def checkCondition (p : Policy) (condition : String) : Except Violation Unit :=
  if p.maxExpressionLength < condition.length then
    .error (.because .expressionTooLong
      s!"expression length {condition.length} exceeds maximum of {p.maxExpressionLength}"
      condition)
  else match DenyList.expression.find? condition with
    | some pattern =>
      .error (.because .maliciousExpression
        s!"expression matches blocked pattern '{pattern}'" condition)
    | none => .ok ()

end Vetting

end PromptTemplate
